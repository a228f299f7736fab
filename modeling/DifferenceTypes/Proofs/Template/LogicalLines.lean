import DifferenceTypes.Proofs.Syntax.Places
import DifferenceTypes.Proofs.Syntax.SourceText
import DifferenceTypes.Proofs.Text.Utf8
import DifferenceTypes.Template.Basic

/-!
# Texts in logical lines

The statements of a text are what its logical lines say (`Module.exists_of_ofText`,
`Module.exists_ofText_of_readsAs`). Where whole logical lines stand at the start of a text, they take whole
source lines there (`Text.exists_sourceLines_append`), and so do the first of them and the others
(`Text.IsWritten.exists_append`).
-/

namespace DifferenceTypes

open Lexer

namespace Text

/-! ### Characters -/

theorem mem_of_mem_unifyLineEnds {text : Text} {point : CodePoint} (among : point ∈ text.unifyLineEnds) :
    point ∈ text ∨ point = .scalar '\n' := by
  induction text with
  | nil => exact nomatch among
  | cons first rest inductionHypothesis =>
    unfold unifyLineEnds at among
    split at among
    · split at among
      · exact (inductionHypothesis among).imp_left (List.mem_cons_of_mem _)
      · rcases List.mem_cons.1 among with rfl | later
        · exact .inr rfl
        · exact (inductionHypothesis later).imp_left (List.mem_cons_of_mem _)
    · rcases List.mem_cons.1 among with rfl | later
      · exact .inl List.mem_cons_self
      · exact (inductionHypothesis later).imp_left (List.mem_cons_of_mem _)

theorem mem_unifyLineEnds {text : Text} {point : CodePoint} (among : point ∈ text) :
    point ∈ text.unifyLineEnds ∨ point = .scalar '\r' := by
  induction text with
  | nil => exact nomatch among
  | cons first rest inductionHypothesis =>
    unfold unifyLineEnds
    rcases List.mem_cons.1 among with rfl | later
    · split
      · next isReturn => exact .inr (eq_of_beq isReturn)
      · exact .inl List.mem_cons_self
    · have behind := inductionHypothesis later
      split
      · split
        · exact behind
        · exact behind.imp_left (List.mem_cons_of_mem _)
      · exact behind.imp_left (List.mem_cons_of_mem _)

/-- A text without lone surrogates and without the character that no module may hold. -/
def IsPlain (text : Text) : Prop :=
  ∀ point ∈ text, ∃ character, point = .scalar character ∧ character ≠ '\x00'

theorem IsPlain.unifyLineEnds {text : Text} (isPlain : text.IsPlain) : text.unifyLineEnds.IsPlain := by
  intro point among
  rcases mem_of_mem_unifyLineEnds among with there | rfl
  · exact isPlain point there
  · exact ⟨'\n', rfl, by decide⟩

theorem IsPlain.of_unifyLineEnds {text : Text} (isPlain : text.unifyLineEnds.IsPlain) : text.IsPlain := by
  intro point among
  rcases mem_unifyLineEnds among with there | rfl
  · exact isPlain point there
  · exact ⟨'\r', rfl, by decide⟩

theorem isPlain_ofCharacters {characters : List Char} (clean : '\x00' ∉ characters) :
    (ofCharacters characters).IsPlain := by
  intro point among
  obtain ⟨character, there, rfl⟩ := List.mem_map.1 among
  exact ⟨character, rfl, fun same => clean (same ▸ there)⟩

theorem IsPlain.exists_characters {text : Text} (isPlain : text.IsPlain) :
    ∃ characters, text = ofCharacters characters ∧ '\x00' ∉ characters := by
  induction text with
  | nil => exact ⟨[], rfl, nofun⟩
  | cons point rest inductionHypothesis =>
    obtain ⟨character, rfl, clean⟩ := isPlain point List.mem_cons_self
    obtain ⟨characters, rfl, cleanRest⟩ :=
      inductionHypothesis fun other among => isPlain other (List.mem_cons_of_mem _ among)
    exact ⟨character :: characters, rfl, by simp [clean.symm, cleanRest]⟩

/-! ### Logical lines in source lines -/

/-- Whole logical lines at the start of a text take whole source lines. -/
theorem exists_sourceLines_append {text : Text} {front rest : List Char}
    (unified : text.unifyLineEnds = ofCharacters (front ++ rest)) (ends : ∃ body, front = body ++ ['\n']) :
    ∃ first later, text.sourceLines = first ++ later ∧ AreSourceLines first ∧
      unifyLineEnds first.flatten = ofCharacters front := by
  have whole := flatten_linesEndingAt CodePoint.endsSourceLine text
  by_cases terminated : IsTerminated text
  · have areLines := areSourceLines_sourceLines terminated
    obtain ⟨first, later, split, -, same, -⟩ :=
      areLines.exists_append (by rw [sourceLines, whole, unified]) ends
    rw [split] at areLines
    exact ⟨first, later, split, areLines.append.1, same⟩
  · obtain ⟨lines, last, isText, isEnded⟩ := sourceLines_append_lineFeed terminated
    have ended : IsTerminated (text ++ [.scalar '\n']) := by
      intro point isLast
      rw [List.getLast?_concat] at isLast
      cases isLast
      rfl
    have apart : ¬Meets text [.scalar '\n'] := by
      intro meets
      refine terminated fun point isLast => ?_
      cases meets.1.symm.trans isLast
      rfl
    have areLines := areSourceLines_sourceLines ended
    have unifiedEnded : unifyLineEnds (text ++ [.scalar '\n']) = ofCharacters (front ++ (rest ++ ['\n'])) := by
      rw [unifyLineEnds_append apart, unified, ← List.append_assoc, ofCharacters_append _ ['\n']]
      rfl
    have wholeEnded := flatten_linesEndingAt CodePoint.endsSourceLine (text ++ [.scalar '\n'])
    obtain ⟨first, later, split, -, same, sameLater⟩ :=
      areLines.exists_append (by rw [sourceLines, wholeEnded, unifiedEnded]) ends
    rw [split] at areLines isEnded
    rcases List.eq_nil_or_concat later with rfl | ⟨others, final, rfl⟩
    · rw [ofCharacters_append] at sameLater
      exact absurd sameLater (by simp [unifyLineEnds, ofCharacters])
    · rw [List.concat_eq_append, ← List.append_assoc] at isEnded
      obtain ⟨rfl, -⟩ := List.append_inj' isEnded rfl
      exact ⟨first, others ++ [last], by rw [isText, List.append_assoc], areLines.append.1, same⟩

/-- A text is written as whole logical lines. -/
def IsWritten (text : Text) (lines : List Line) : Prop :=
  ∃ texts, List.Forall₂ Writes texts lines ∧ text.unifyLineEnds = ofCharacters texts.flatten ∧
    '\x00' ∉ texts.flatten

theorem IsWritten.readsAs {text : Text} {lines : List Line} (isWritten : text.IsWritten lines) :
    text.ReadsAs (contentsOf lines) (isOpen lines) := by
  obtain ⟨texts, writes, unified, clean⟩ := isWritten
  exact ⟨texts.flatten, unified, clean, texts, lines, rfl, writes, rfl, rfl⟩

end Text

namespace Lexer

theorem count_flatten_of_writes {texts : List (List Char)} {lines : List Line}
    (writes : List.Forall₂ Writes texts lines) : texts.flatten.count '\n' = Layout.height lines := by
  induction writes with
  | nil => rfl
  | cons first later inductionHypothesis =>
    rw [List.flatten_cons, List.count_append, inductionHypothesis, ← first.height, Layout.height_cons]

/-- Whole lines end with a line end. -/
theorem exists_flatten_of_writes {texts : List (List Char)} {lines : List Line}
    (writes : List.Forall₂ Writes texts lines) (nonempty : lines ≠ []) :
    ∃ body, texts.flatten = body ++ ['\n'] := by
  induction writes with
  | nil => exact absurd rfl nonempty
  | @cons text line texts lines first later inductionHypothesis =>
    obtain ⟨body, rfl⟩ := first.exists_append
    cases later with
    | nil => exact ⟨body, by simp⟩
    | cons =>
      obtain ⟨others, same⟩ := inductionHypothesis (List.cons_ne_nil _ _)
      exact ⟨body ++ ['\n'] ++ others, by simp [List.flatten_cons.symm.trans same]⟩

/-- Lines are read one behind the other. -/
theorem exists_of_writes_append {texts : List (List Char)} {lines found : List Line}
    (writes : List.Forall₂ Writes texts lines) {others : List (List Char)}
    (writesAll : List.Forall₂ Writes others found) {rest : List Char}
    (split : others.flatten = texts.flatten ++ rest) :
    ∃ later, found = lines ++ later := by
  induction writes generalizing others found with
  | nil => exact ⟨found, rfl⟩
  | @cons text line texts lines first later inductionHypothesis =>
    rw [List.flatten_cons, List.append_assoc] at split
    cases writesAll with
    | nil =>
      obtain ⟨body, rfl⟩ := first.exists_append
      simp at split
    | @cons other head others found start behind =>
      rw [List.flatten_cons] at split
      have same := start.line? others.flatten
      rw [split, first.line? (texts.flatten ++ rest)] at same
      obtain ⟨rfl, remaining⟩ := by simpa using same
      obtain ⟨rest, rfl⟩ := inductionHypothesis behind remaining.symm
      exact ⟨rest, rfl⟩

end Lexer

namespace Text

/-- Of whole logical lines, the first ones and the others take source lines of their own. -/
theorem IsWritten.exists_append {lines : List Text} (areLines : AreSourceLines lines)
    {above below : List Line} (isWritten : IsWritten lines.flatten (above ++ below)) :
    ∃ front behind, lines = front ++ behind ∧ front.length = Layout.height above ∧
      IsWritten front.flatten above ∧ IsWritten behind.flatten below := by
  obtain ⟨texts, writes, unified, clean⟩ := isWritten
  have first := List.forall₂_take_append texts above below writes
  have later := List.forall₂_drop_append texts above below writes
  rw [← List.take_append_drop above.length texts, List.flatten_append] at unified clean
  have cleanFirst : '\x00' ∉ (texts.take above.length).flatten :=
    fun among => clean (List.mem_append_left _ among)
  have cleanLater : '\x00' ∉ (texts.drop above.length).flatten :=
    fun among => clean (List.mem_append_right _ among)
  by_cases empty : above = []
  · subst empty
    exact ⟨[], lines, rfl, rfl, ⟨[], .nil, rfl, nofun⟩, ⟨_, later, by simpa using unified, cleanLater⟩⟩
  · obtain ⟨front, behind, split, count, unifiedFront, unifiedBehind⟩ :=
      areLines.exists_append unified (exists_flatten_of_writes first empty)
    exact ⟨front, behind, split, count.trans (count_flatten_of_writes first),
      ⟨_, first, unifiedFront, cleanFirst⟩, ⟨_, later, unifiedBehind, cleanLater⟩⟩

theorem IsWritten.length_eq {lines : List Text} (areLines : AreSourceLines lines) {written : List Line}
    (isWritten : IsWritten lines.flatten written) : lines.length = Layout.height written := by
  obtain ⟨texts, writes, unified, -⟩ := isWritten
  rw [areLines.length_eq unified, count_flatten_of_writes writes]

/-- What is unified in a text is unified at its start. -/
theorem exists_unifyLineEnds_append (text rest : Text) :
    ∃ others, unifyLineEnds (text ++ rest) = unifyLineEnds text ++ others := by
  by_cases meets : Meets text rest
  · obtain ⟨ends, starts⟩ := meets
    obtain ⟨others, rfl⟩ := List.head?_eq_some_iff.1 starts
    exact ⟨_, unifyLineEnds_append_of_meets ends⟩
  · exact ⟨_, unifyLineEnds_append meets⟩

/-- Behind what stands at the start of a text, something else is said. -/
theorem ReadsAs.exists_append {text rest : Text} {contents : List LineContent} {open_ : Bool}
    (reads : ReadsAs text contents open_) {characters : List Char} {found : List Line}
    (unified : (text ++ rest).unifyLineEnds = ofCharacters characters) {ending : List Char}
    (read : lines? (characters ++ ending) = some found) :
    ∃ others, contentsOf found = contents ++ others := by
  obtain ⟨front, unifiedFront, -, texts, lines, rfl, writes, rfl, -⟩ := reads
  obtain ⟨others, split⟩ := exists_unifyLineEnds_append text rest
  rw [unified, unifiedFront] at split
  obtain ⟨first, behind, rfl, same, -⟩ := List.map_eq_append_iff.1 split
  obtain rfl : first = texts.flatten :=
    List.map_injective_iff.2 (fun _ _ => CodePoint.scalar.inj) same
  obtain ⟨written, all, writesAll, -⟩ := lines?_eq_some_iff.1 read
  rw [List.append_assoc] at all
  obtain ⟨later, rfl⟩ := exists_of_writes_append writes writesAll all.symm
  exact ⟨contentsOf later, by simp [contentsOf]⟩

end Text

/-! ### Statements -/

/-- The logical lines of a text. -/
def Text.logicalLines? (text : Text) : Option (List Line) :=
  text.asSource.characters?.bind fun source => lines? (withFinalLineEnd source)

theorem withFinalLineEnd_concat (body : List Char) :
    withFinalLineEnd (body ++ ['\n']) = body ++ ['\n'] := by
  simp [withFinalLineEnd]

theorem exists_withFinalLineEnd (source : List Char) :
    ∃ ending, (ending = [] ∨ ending = ['\n']) ∧ withFinalLineEnd source = source ++ ending := by
  unfold withFinalLineEnd
  split
  · exact ⟨[], .inl rfl, (List.append_nil _).symm⟩
  · split
    · exact ⟨[], .inl rfl, (List.append_nil _).symm⟩
    · exact ⟨['\n'], .inr rfl, rfl⟩

/-- The parser takes a text with its line ends unified, and perhaps with one more line end behind the
last one. -/
theorem Text.asSource_eq {text : Text} {characters : List Char}
    (unified : text.unifyLineEnds = ofCharacters characters) :
    text.asSource = ofCharacters characters ∨
      text.asSource = ofCharacters (characters ++ ['\n']) ∧ ∃ body, characters = body ++ ['\n'] := by
  unfold asSource
  split
  · next isSuffix =>
    obtain ⟨front, rfl⟩ := List.isSuffixOf_iff_suffix.1 isSuffix
    refine .inr ⟨by rw [unified, ofCharacters_append]; rfl, ?_⟩
    rw [unifyLineEnds_append (by simp [Meets])] at unified
    obtain ⟨body, ending, rfl, -, same⟩ := List.map_eq_append_iff.1 unified.symm
    refine ⟨body, ?_⟩
    obtain rfl : ending = ['\n'] := List.map_injective_iff.2 (fun _ _ => CodePoint.scalar.inj) same
    rfl
  · exact .inl unified

namespace Module

open Text in
/-- The statements of a text are those of its logical lines. -/
theorem exists_of_ofText {text : Text} {module : Module} (read : ofText text = .ok module) :
    ∃ characters source ending lines, text.unifyLineEnds = ofCharacters characters ∧
      '\x00' ∉ characters ∧ (ending = [] ∨ ending = ['\n']) ∧
      withFinalLineEnd source = characters ++ ending ∧ text.logicalLines? = some lines ∧
      lines? (withFinalLineEnd source) = some lines ∧ parse? source = some module := by
  unfold ofText at read
  split at read
  · exact nomatch read
  · next written isWritten =>
    split at read
    · exact nomatch read
    · next clean =>
      split at read
      · next parsed =>
        cases read
        have plain : text.IsPlain := by
          rw [← ofCharacters_of_characters? isWritten]
          exact isPlain_ofCharacters (by simpa using clean)
        obtain ⟨characters, unified, cleanUnified⟩ := plain.unifyLineEnds.exists_characters
        obtain ⟨source, isSource, parsed⟩ := Option.bind_eq_some_iff.1 parsed
        have same := (ofCharacters_of_characters? isSource).symm
        obtain ⟨ending, isEnding, whole⟩ : ∃ ending, (ending = [] ∨ ending = ['\n']) ∧
            withFinalLineEnd source = characters ++ ending := by
          rcases asSource_eq unified with unchanged | ⟨longer, -⟩
          · obtain rfl : source = characters :=
              List.map_injective_iff.2 (fun _ _ => CodePoint.scalar.inj) (same.symm.trans unchanged)
            exact exists_withFinalLineEnd source
          · obtain rfl : source = characters ++ ['\n'] :=
              List.map_injective_iff.2 (fun _ _ => CodePoint.scalar.inj) (same.symm.trans longer)
            exact ⟨['\n'], .inr rfl, withFinalLineEnd_concat characters⟩
        obtain ⟨lines, isLines, -⟩ := Option.bind_eq_some_iff.1 parsed
        have logical : text.logicalLines? = some lines := by
          rw [logicalLines?, isSource, Option.bind_some, isLines]
        exact ⟨characters, source, ending, lines, unified, cleanUnified, isEnding, whole, logical, isLines,
          parsed⟩
      · exact nomatch read

open Text in
/-- A text of whole logical lines has their statements. -/
theorem ofText_of_isWritten {text : Text} {lines : List Line} (isWritten : text.IsWritten lines)
    (closed : isOpen lines = false) {module : Module} (read : ofLines? 0 lines = some module) :
    ofText text = .ok module := by
  obtain ⟨texts, writes, unified, clean⟩ := isWritten
  have plain : text.IsPlain := by
    refine IsPlain.of_unifyLineEnds ?_
    rw [unified]
    exact isPlain_ofCharacters clean
  obtain ⟨written, rfl, cleanText⟩ := plain.exists_characters
  -- One more line end behind the last one says nothing.
  obtain ⟨source, isSource, parsed⟩ : ∃ source, (ofCharacters written).asSource = ofCharacters source ∧
      parse? source = some module := by
    rcases asSource_eq unified with unchanged | ⟨longer, -⟩
    · have whole : withFinalLineEnd texts.flatten = texts.flatten := by
        cases writes with
        | nil => rfl
        | cons first later =>
          obtain ⟨body, same⟩ := exists_flatten_of_writes (.cons first later) (List.cons_ne_nil _ _)
          rw [same, withFinalLineEnd_concat]
      refine ⟨texts.flatten, unchanged, ?_⟩
      rw [parse?_eq_ofLines? (by rw [whole]; exact lines?_eq_some_iff.2 ⟨texts, rfl, writes, closed⟩), read]
    · have blank : Writes ['\n'] ⟨⟨0, 0⟩, [], 1, false⟩ := .blank .finish fun _ => rfl
      have isLines : lines? (withFinalLineEnd (texts.flatten ++ ['\n'])) =
          some (lines ++ [⟨⟨0, 0⟩, [], 1, false⟩]) := by
        rw [withFinalLineEnd_concat]
        refine lines?_eq_some_iff.2 ⟨texts ++ [['\n']], by simp, List.rel_append writes (.cons blank .nil), ?_⟩
        simp [isOpen]
      refine ⟨texts.flatten ++ ['\n'], longer, ?_⟩
      have invisible : Layout.visible (0 + Layout.height lines) [⟨⟨0, 0⟩, [], 1, false⟩] = [] := rfl
      rw [parse?_eq_ofLines? isLines, ← read, ofLines?, ofLines?, Layout.visible_append, invisible, List.append_nil]
  unfold ofText
  rw [characters?_ofCharacters, isSource, characters?_ofCharacters, Option.bind_some, parsed]
  simp [cleanText]

open Text in
/-- A text that tells statements has them. -/
theorem exists_ofText_of_readsAs {text : Text} {contents : List LineContent} {statements : List (Stmt Unit)}
    (reads : text.ReadsAs contents false) (tells : LineContent.statements? contents = some statements) :
    ∃ module, ofText text = .ok module ∧ Stmt.contents module = statements := by
  obtain ⟨_, unified, clean, texts, lines, rfl, writes, rfl, closed⟩ := reads
  rw [← map_contents_ofLines? 0] at tells
  obtain ⟨module, read, same⟩ := Option.map_eq_some_iff.1 tells
  exact ⟨module, ofText_of_isWritten ⟨texts, writes, unified, clean⟩ closed read, same⟩

open Text in
/-- Where the first logical lines of a text are not all of them, they take whole source lines. -/
theorem exists_sourceLines_of_ofText {text : Text} {module : Module} (read : ofText text = .ok module)
    {above below : List Line} (isText : text.logicalLines? = some (above ++ below)) (more : above ≠ [] → below ≠ []) :
    ∃ front behind, text.sourceLines = front ++ behind ∧ AreSourceLines front ∧
      IsWritten front.flatten above := by
  by_cases empty : above = []
  · subst empty
    exact ⟨[], text.sourceLines, rfl, ⟨nofun, .nil⟩, [], .nil, rfl, nofun⟩
  obtain ⟨characters, source, ending, lines, unified, clean, isEnding, whole, logical, isLines, -⟩ :=
    exists_of_ofText read
  cases logical.symm.trans isText
  obtain ⟨texts, split, writes, -⟩ := lines?_eq_some_iff.1 isLines
  have first := List.forall₂_take_append texts above below writes
  have later := List.forall₂_drop_append texts above below writes
  rw [whole, ← List.take_append_drop above.length texts, List.flatten_append] at split
  obtain ⟨body, ended⟩ := exists_flatten_of_writes later (more empty)
  obtain ⟨rest, rfl⟩ : ∃ rest, characters = (texts.take above.length).flatten ++ rest := by
    rcases isEnding with rfl | rfl
    · exact ⟨_, by simpa using split⟩
    · rw [ended, ← List.append_assoc] at split
      exact ⟨body, (List.append_inj' split rfl).1⟩
  obtain ⟨front, behind, divided, areLines, same⟩ :=
    exists_sourceLines_append unified (exists_flatten_of_writes first empty)
  exact ⟨front, behind, divided, areLines, _, first, same,
    fun among => clean (List.mem_append_left _ among)⟩

open Text in
/-- What a text says behind its front comes behind what the front says, if something else starts there. -/
theorem exists_of_ofText_append {front rest : Text} {contents : List LineContent}
    (reads : front.ReadsAs contents false) {module : Module} (read : ofText (front ++ rest) = .ok module)
    {valid : List (Stmt Unit) → Prop}
    (tells : ∀ others found, LineContent.statements? (contents ++ others) = some found →
      ∃ statements, LineContent.statements? contents = some statements ∧ valid statements ∧
        LineContent.StartGroup others) :
    ∃ first later, ofText front = .ok first ∧ valid (Stmt.contents first) ∧
      Stmt.contents module = Stmt.contents first ++ later := by
  obtain ⟨characters, source, ending, lines, unified, -, -, whole, -, isLines, parsed⟩ := exists_of_ofText read
  have told := map_contents_parse? isLines
  rw [parsed, Option.map_some] at told
  rw [whole] at isLines
  obtain ⟨others, same⟩ := reads.exists_append unified isLines
  rw [same] at told
  obtain ⟨statements, alone, isValid, starts⟩ := tells others _ told.symm
  obtain ⟨first, readFirst, rfl⟩ := exists_ofText_of_readsAs reads alone
  rw [LineContent.statements?_append starts alone] at told
  obtain ⟨later, -, split⟩ := Option.map_eq_some_iff.1 told.symm
  exact ⟨first, later, readFirst, isValid, split.symm⟩

end Module

end DifferenceTypes
