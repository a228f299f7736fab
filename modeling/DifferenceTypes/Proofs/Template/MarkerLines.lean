import DifferenceTypes.Proofs.Template.Reading
import DifferenceTypes.Proofs.Template.SourceCuts
import DifferenceTypes.Proofs.Text.Utf8

/-!
# Lines of markers

A marker that has its lines for itself, as the parser numbers them, is accepted with these lines
wherever display lines are numbered as source lines are (`Marker.lines_of_standsAlone`). The columns
of its span never cut a character, so the comparison of what stands around it cannot fail there.
-/

namespace DifferenceTypes

namespace Text

/-- Display lines are the source lines, up to a number of them. -/
def NumbersAlike (text : Text) (count : Nat) : Prop :=
  text.displayLines.take count = text.sourceLines.take count

instance (text : Text) (count : Nat) : Decidable (text.NumbersAlike count) :=
  inferInstanceAs (Decidable (_ = _))

/-- The source line with a number, counted from one. -/
def sourceLine? (text : Text) (number : Nat) : Option Text :=
  if number = 0 then none else text.sourceLines[number - 1]?

theorem NumbersAlike.mono {text : Text} {count less : Nat} (alike : text.NumbersAlike count)
    (isLess : less ≤ count) : text.NumbersAlike less := by
  have shorter := congrArg (List.take less) alike
  rwa [List.take_take, List.take_take, Nat.min_eq_left isLess] at shorter

/-- A line that is numbered alike is looked up by its number in source lines. -/
theorem NumbersAlike.line? {text line : Text} {number count : Nat} (alike : text.NumbersAlike count)
    (inside : number ≤ count) (isLine : text.sourceLine? number = some line) :
    Marker.line? text.displayLines number = some line := by
  unfold sourceLine? at isLine
  split at isLine
  · exact nomatch isLine
  · have positive : ¬(number : Int) ≤ 0 := by omega
    have index : ((number : Int) - 1).toNat = number - 1 := by omega
    have taken := congrArg (·[number - 1]?) alike
    simp only [List.getElem?_take_of_lt (show number - 1 < count by omega)] at taken
    rw [Marker.line?]
    simp only [if_neg positive]
    rw [if_neg (by omega), index, taken, isLine]

/-! ### Blanks around a text -/

theorem stripStart_append {blank text : Text} (isBlank : ∀ point ∈ blank, point.isBlank = true) :
    stripStart (blank ++ text) = stripStart text := by
  induction blank with
  | nil => rfl
  | cons point rest inductionHypothesis =>
    have first := isBlank point List.mem_cons_self
    rw [stripStart, List.cons_append, List.dropWhile_cons_of_pos first]
    exact inductionHypothesis fun point among => isBlank point (List.mem_cons_of_mem _ among)

theorem stripStart_cons {point : CodePoint} (visible : point.isBlank = false) (rest : Text) :
    stripStart (point :: rest) = point :: rest := by
  rw [stripStart, List.dropWhile_cons_of_neg (by simp [visible])]

theorem strip_blank {blank : Text} (isBlank : ∀ point ∈ blank, point.isBlank = true) : strip blank = [] := by
  have none : stripStart (blank ++ []) = stripStart [] := stripStart_append isBlank
  rw [List.append_nil] at none
  rw [strip, none]
  rfl

/-- Blanks around a single visible character. -/
theorem strip_single {before behind : Text} {point : CodePoint}
    (blankBefore : ∀ point ∈ before, point.isBlank = true) (visible : point.isBlank = false)
    (blankBehind : ∀ point ∈ behind, point.isBlank = true) : strip (before ++ point :: behind) = [point] := by
  have reversed : (point :: behind).reverse = behind.reverse ++ [point] := List.reverse_cons
  rw [strip, stripStart_append blankBefore, stripStart_cons visible, reversed,
    stripStart_append fun point among => blankBehind point (List.mem_reverse.1 among), stripStart_cons visible]
  rfl

/-- A text that starts with a visible character behind blanks starts with it without them. -/
theorem head?_strip {blank rest : Text} {point : CodePoint}
    (isBlank : ∀ point ∈ blank, point.isBlank = true) (visible : point.isBlank = false) :
    (strip (blank ++ point :: rest)).head? = some point := by
  rw [strip, stripStart_append isBlank, stripStart_cons visible, List.head?_reverse]
  obtain ⟨dropped, split⟩ := List.dropWhile_suffix (l := (point :: rest).reverse) CodePoint.isBlank
  have last : (dropped ++ stripStart (point :: rest).reverse).getLast? = some point := by
    rw [stripStart, split]
    simp
  cases kept : stripStart (point :: rest).reverse with
  | nil =>
    rw [stripStart, List.dropWhile_eq_nil_iff] at kept
    exact nomatch visible.symm.trans (kept point (by simp))
  | cons first others => rwa [kept, List.getLast?_append_of_ne_nil _ (List.cons_ne_nil _ _)] at last

end Text

namespace Marker

/-- A marker has its lines for itself: before it on its first line is nothing but its sign and blanks,
behind it on its last line nothing but blanks and a comment. Lines are source lines. -/
structure StandsAlone (text : Text) (span : Span) : Prop where
  before : ∃ first second after, text.sourceLine? span.start.line =
      some (Text.ofCharacters ((first ++ '@' :: second) ++ after)) ∧
    span.start.column = (Utf8.encodeCharacters (first ++ '@' :: second)).length ∧
    (∀ character ∈ first ++ second, isBlankCharacter character = true)
  behind : ∃ before blank comment, text.sourceLine? span.stop.line =
      some (Text.ofCharacters (before ++ (blank ++ comment))) ∧
    span.stop.column = (Utf8.encodeCharacters before).length ∧
    (∀ character ∈ blank, isBlankCharacter character = true) ∧ (comment = [] ∨ comment.head? = some '#')

theorem isBlank_of_mem_ofCharacters {characters : List Char}
    (isBlank : ∀ character ∈ characters, isBlankCharacter character = true) :
    ∀ point ∈ Text.ofCharacters characters, point.isBlank = true := by
  intro point among
  obtain ⟨character, there, rfl⟩ := List.mem_map.1 among
  exact isBlank character there

/-- A marker that has its lines for itself is accepted with them where lines are numbered alike. -/
theorem lines_of_standsAlone {text : Text} {span : Span} {count : Nat} (alike : text.NumbersAlike count)
    (alone : StandsAlone text span) (first : span.start.line ≤ count) (last : span.stop.line ≤ count) :
    lines text.displayLines (.ofSpan span) = .ok ((span.start.line : Int), (span.stop.line : Int)) := by
  obtain ⟨⟨blank, blankBehind, after, isFirst, start, isBlank⟩, before, trailing, comment, isLast, stop,
    isBlankTrailing, isComment⟩ := alone
  have sign : Text.strip (Text.ofCharacters (blank ++ '@' :: blankBehind)) = "@" := by
    rw [Text.ofCharacters_append]
    exact Text.strip_single
      (isBlank_of_mem_ofCharacters fun character among => isBlank character (List.mem_append_left _ among)) rfl
      (isBlank_of_mem_ofCharacters fun character among => isBlank character (List.mem_append_right _ among))
  have rest : (Text.strip (Text.ofCharacters (trailing ++ comment))).isEmpty = true ∨
      (Text.strip (Text.ofCharacters (trailing ++ comment))).head? = some (.scalar '#') := by
    rcases isComment with rfl | isComment
    · left
      rw [List.append_nil, Text.strip_blank (isBlank_of_mem_ofCharacters isBlankTrailing)]
      rfl
    · right
      obtain ⟨others, rfl⟩ := List.head?_eq_some_iff.1 isComment
      rw [Text.ofCharacters_append]
      exact Text.head?_strip (isBlank_of_mem_ofCharacters isBlankTrailing) rfl
  unfold lines Place.ofSpan
  dsimp only
  rw [alike.line? first isFirst, alike.line? last isLast, start, stop]
  dsimp only [Option.elim_some]
  have noFault : (!(Text.strip (Text.ofCharacters (trailing ++ comment))).isEmpty &&
      (Text.strip (Text.ofCharacters (trailing ++ comment))).head? != some (.scalar '#')) = false := by
    rcases rest with empty | hash
    · simp [empty]
    · simp [hash]
  simp only [bind, Except.bind, Text.upToColumn_ofCharacters, Text.fromColumn_ofCharacters, Except.mapError,
    sign, noFault]
  rfl

/-- Accepted lines are those of the marker's span. -/
theorem eq_of_lines {display : List Text} {place : Place} {found : Int × Int}
    (isFound : lines display place = .ok found) : found = (place.line, place.lastLine) := by
  unfold lines at isFound
  obtain ⟨_, -, isFound⟩ := Except.exists_of_bind_eq_ok isFound
  obtain ⟨_, -, isFound⟩ := Except.exists_of_bind_eq_ok isFound
  dsimp only at isFound
  split at isFound
  · exact nomatch isFound
  · obtain ⟨_, -, isFound⟩ := Except.exists_of_bind_eq_ok isFound
    obtain ⟨_, -, isFound⟩ := Except.exists_of_bind_eq_ok isFound
    split at isFound
    · exact nomatch isFound
    · cases isFound
      rfl

end Marker

end DifferenceTypes
