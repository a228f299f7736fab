import DifferenceTypes.Text.CodePoint

/-!
# Lines of a text

Two conventions say where a line ends, and both matter here. The positions of syntax are counted in
*source lines*, which end at a line feed, a carriage return, or the two together. The generated text
is put together from *display lines*, which also end at the vertical tab, the form feed, the
separators U+001C to U+001E, the next-line character and the line and paragraph separators of
Unicode.

Both are instances of `linesEndingAt`, which keeps the end of each line as part of it, so the lines
of a text joined are the text (`flatten_linesEndingAt`). A text without a final line end has an
unterminated last line; the empty text has no lines.
-/

namespace DifferenceTypes

/-- A line feed or a carriage return. -/
def CodePoint.endsSourceLine : CodePoint → Bool
  | .scalar character => character == '\n' || character == '\r'
  | .surrogate _ => false

/-- Any of the ten characters that end a line of displayed text. -/
def CodePoint.endsDisplayLine : CodePoint → Bool
  | .scalar character =>
    let number := character.toNat
    (10 ≤ number && number ≤ 13) || (0x1C ≤ number && number ≤ 0x1E) || number == 0x85 ||
      number == 0x2028 ||
      number == 0x2029
  | .surrogate _ => false

namespace Text

/-- A carriage return with a line feed after it ends no line of its own. -/
def splitsCarriageReturn (point : CodePoint) (rest : Text) : Bool :=
  point == .scalar '\r' && rest.head? == some (.scalar '\n')

/-- The lines of a text, each with its end, where `ends` says which characters end a line. -/
def linesEndingAt (ends : CodePoint → Bool) : Text → List Text
  | [] => []
  | point :: rest =>
    if ends point && !splitsCarriageReturn point rest then [point] :: linesEndingAt ends rest
    else match linesEndingAt ends rest with
      | [] => [[point]]
      | line :: others => (point :: line) :: others

/-- Lines as positions in syntax count them. -/
def sourceLines (text : Text) : List Text :=
  linesEndingAt CodePoint.endsSourceLine text

/-- Lines as the generated text is put together from them. -/
def displayLines (text : Text) : List Text :=
  linesEndingAt CodePoint.endsDisplayLine text

/-- Cutting a text into lines loses nothing. -/
theorem flatten_linesEndingAt (ends : CodePoint → Bool) (text : Text) :
    (linesEndingAt ends text).flatten = text := by
  induction text with
  | nil => rfl
  | cons point rest inductionHypothesis =>
    unfold linesEndingAt
    split
    · simp [inductionHypothesis]
    · cases remaining : linesEndingAt ends rest with
      | nil =>
        rw [remaining] at inductionHypothesis
        simp at inductionHypothesis
        simp [← inductionHypothesis]
      | cons line others =>
        rw [remaining] at inductionHypothesis
        simp at inductionHypothesis
        simp [inductionHypothesis]

/-- No line is empty: each holds at least its end or a character before it. -/
theorem ne_nil_of_mem_linesEndingAt {ends : CodePoint → Bool} {text line : Text}
    (member : line ∈ linesEndingAt ends text) : line ≠ [] := by
  induction text generalizing line with
  | nil => simp [linesEndingAt] at member
  | cons point rest inductionHypothesis =>
    unfold linesEndingAt at member
    split at member
    · rcases List.mem_cons.1 member with rfl | earlier
      · simp
      · exact inductionHypothesis earlier
    · split at member
      · simp_all
      · rename_i remaining
        rcases List.mem_cons.1 member with rfl | earlier
        · simp
        · exact inductionHypothesis (by rw [remaining]; exact List.mem_cons_of_mem _ earlier)

/-- Every carriage return, alone or before a line feed, becomes a line feed together with it, as a
file is read where line ends do not matter. -/
def unifyLineEnds : Text → Text
  | [] => []
  | point :: rest =>
    if point == .scalar '\r' then
      if rest.head? == some (.scalar '\n') then unifyLineEnds rest
      else .scalar '\n' :: unifyLineEnds rest
    else point :: unifyLineEnds rest

/-- A text as the parser of modules takes it: its line ends are unified, and behind a final carriage
return and line feed comes one more line end. -/
def asSource (text : Text) : Text :=
  if [.scalar '\r', .scalar '\n'].isSuffixOf text then unifyLineEnds text ++ [.scalar '\n']
  else unifyLineEnds text

/-- Behind unified line ends there is no carriage return. -/
theorem not_mem_unifyLineEnds (text : Text) :
    CodePoint.scalar '\r' ∉ unifyLineEnds text := by
  induction text with
  | nil => simp [unifyLineEnds]
  | cons point rest inductionHypothesis =>
    unfold unifyLineEnds
    split
    · split
      · exact inductionHypothesis
      · simp [inductionHypothesis]
    · rename_i other
      have different : CodePoint.scalar '\r' ≠ point := by
        intro same
        simp [same] at other
      simp [different, inductionHypothesis]

/-- A text without carriage returns is left as it is. -/
theorem unifyLineEnds_eq_self {text : Text} (absent : CodePoint.scalar '\r' ∉ text) :
    unifyLineEnds text = text := by
  induction text with
  | nil => rfl
  | cons point rest inductionHypothesis =>
    have different : point ≠ CodePoint.scalar '\r' := by
      intro same
      simp [same] at absent
    have later : CodePoint.scalar '\r' ∉ rest := fun member =>
      absent (List.mem_cons_of_mem _ member)
    simp [unifyLineEnds, different, inductionHypothesis later]

/-- Unifying line ends leaves exactly the texts without carriage returns alone. -/
theorem unifyLineEnds_eq_self_iff (text : Text) :
    text.unifyLineEnds = text ↔ CodePoint.scalar '\r' ∉ text :=
  ⟨fun same => same ▸ not_mem_unifyLineEnds text, unifyLineEnds_eq_self⟩

end Text

end DifferenceTypes
