import DifferenceTypes.Generation.Output
import DifferenceTypes.Proofs.Syntax.SourceText

/-!
# The header of a generated file

The digest is 64 hexadecimal digits, so it holds no line end and nothing that could be mistaken for
one. Everything else in the header is fixed but for the label: a header with a label of characters is
made of characters, and it holds a carriage return only if the label does. Its lines are comments, so with a
label on one line it says nothing as a part of a module.
-/

namespace DifferenceTypes

/-- A digit is one of ten numerals and six letters. -/
theorem isDigestDigit_hexadecimalDigit {number : Nat} (small : number < 16) :
    Output.isDigestDigit (.scalar (hexadecimalDigit number)) = true := by
  have all : ∀ digit : Fin 16,
      Output.isDigestDigit (.scalar (hexadecimalDigit digit.val)) = true := by decide
  exact all ⟨number, small⟩

/-- All characters of a number's digits are digits. -/
theorem isDigestDigit_of_mem_hexadecimal {count number : Nat} {character : Char}
    (member : character ∈ hexadecimal count number) :
    Output.isDigestDigit (.scalar character) = true := by
  induction count generalizing number with
  | zero => simp [hexadecimal] at member
  | succ count inductionHypothesis =>
    rcases List.mem_append.1 member with earlier | last
    · exact inductionHypothesis earlier
    · rw [List.mem_singleton.1 last]
      exact isDigestDigit_hexadecimalDigit (Nat.mod_lt _ (by decide))

namespace Output

/-- All characters of a digest are digits. -/
theorem isDigestDigit_of_mem_digest {bytes : List UInt8} {character : Char}
    (member : character ∈ digest bytes) : isDigestDigit (.scalar character) = true := by
  obtain ⟨word, -, digits⟩ := List.mem_flatMap.1 member
  exact isDigestDigit_of_mem_hexadecimal digits

/-- A digest holds no carriage return. -/
theorem carriageReturn_not_mem_digest (bytes : List UInt8) : '\r' ∉ digest bytes := by
  intro member
  exact absurd (isDigestDigit_of_mem_digest member) (by decide)

/-- A header with a label of characters is made of characters. -/
theorem exists_header_eq_ofCharacters (label : List Char) (bytes : List UInt8) :
    ∃ characters, header (Text.ofCharacters label) bytes = Text.ofCharacters characters := by
  simp only [header, digestMark, Text.ofString, Text.ofCharacters, ← List.map_append]
  exact ⟨_, rfl⟩

/-- A header holds a carriage return only if its label does. -/
theorem carriageReturn_mem_header_iff (label : Text) (bytes : List UInt8) :
    CodePoint.scalar '\r' ∈ header label bytes ↔ CodePoint.scalar '\r' ∈ label := by
  have clean := carriageReturn_not_mem_digest bytes
  simp [header, digestMark, Text.ofString, Text.ofCharacters, generatorVersion, formatVersion, clean]

/-! ### Comments -/

open Lexer Text

/-- Characters of a single line of text. -/
def IsOneLine (characters : List Char) : Prop :=
  ∀ character ∈ characters, character ≠ '\n' ∧ character ≠ '\r' ∧ character ≠ '\x00'

instance (characters : List Char) : Decidable (IsOneLine characters) :=
  List.decidableBAll _ characters

/-- A comment on a line of its own. -/
def commentLine (body : List Char) : Text :=
  ofCharacters ('#' :: body ++ ['\n'])

theorem getLast?_commentLine (body : List Char) : (commentLine body).getLast? = some (.scalar '\n') := by
  rw [commentLine, ofCharacters_append]
  exact List.getLast?_concat

/-- A comment says nothing. -/
theorem readsAs_commentLine {body : List Char} (oneLine : IsOneLine body) :
    ReadsAs (commentLine body) [] false := by
  have noFeed : '\n' ∉ body := fun among => (oneLine _ among).1 rfl
  have noReturn : CodePoint.scalar '\r' ∉ commentLine body := by
    intro among
    obtain ⟨character, there, same⟩ := List.mem_map.1 among
    obtain rfl := CodePoint.scalar.inj same
    simp at there
    exact (oneLine _ there).2.1 rfl
  have noNull : '\x00' ∉ '#' :: body ++ ['\n'] := by
    intro among
    simp at among
    exact (oneLine _ among).2.2 rfl
  exact ⟨'#' :: body ++ ['\n'], unifyLineEnds_eq_self noReturn, noNull, (Scans.comment noFeed .finish).reads⟩

/-- Comments before a text that says nothing say nothing. -/
theorem readsAs_commentLines {bodies : List (List Char)} (oneLine : ∀ body ∈ bodies, IsOneLine body)
    {rest : Text} (reads : ReadsAs rest [] false) : ReadsAs (bodies.flatMap commentLine ++ rest) [] false := by
  induction bodies with
  | nil => exact reads
  | cons body others inductionHypothesis =>
    have first := readsAs_commentLine (oneLine body List.mem_cons_self)
    have later := inductionHypothesis fun other among => oneLine other (List.mem_cons_of_mem _ among)
    rw [List.flatMap_cons, List.append_assoc]
    refine first.append later (fun _ => rfl) fun meets => ?_
    exact nomatch (getLast?_commentLine body).symm.trans meets.1

/-- A header is comments and a blank line behind them. -/
theorem header_eq (label : List Char) (bytes : List UInt8) :
    header (ofCharacters label) bytes =
      [" diffgen-generated".toList, " source: ".toList ++ label,
        " generator_version: ".toList ++ generatorVersion.toList,
        " format_version: ".toList ++ formatVersion.toList,
        " digest: ".toList ++ digest bytes].flatMap commentLine ++ "\n" := by
  simp [header, digestMark, commentLine, ofString, ofCharacters, generatorVersion, formatVersion]

/-- With a label on one line, a header says nothing. -/
theorem readsAs_header {label : List Char} (oneLine : IsOneLine label) (bytes : List UInt8) :
    ReadsAs (header (ofCharacters label) bytes) [] false := by
  have digits : IsOneLine (digest bytes) := by
    intro character among
    have isDigit := isDigestDigit_of_mem_digest among
    refine ⟨?_, ?_, ?_⟩ <;> rintro rfl <;> exact absurd isDigit (by decide)
  have joined {start rest : List Char} (clean : IsOneLine start) (more : IsOneLine rest) :
      IsOneLine (start ++ rest) := by
    intro character among
    rcases List.mem_append.1 among with first | second
    · exact clean character first
    · exact more character second
  rw [header_eq]
  refine readsAs_commentLines ?_ readsAs_lineFeed
  simp only [List.forall_mem_cons, List.not_mem_nil, false_imp_iff, implies_true, and_true]
  exact ⟨by decide, joined (by decide) oneLine, by decide, by decide,
    joined (by decide) digits⟩

theorem getLast?_header (label : List Char) (bytes : List UInt8) :
    (header (ofCharacters label) bytes).getLast? = some (.scalar '\n') := by
  rw [header_eq]
  exact List.getLast?_concat

end Output

end DifferenceTypes
