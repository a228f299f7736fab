import DifferenceTypes.Text.Blank
import DifferenceTypes.Text.Lines

/-!
# Collapsing blanks

`collapseBlanks` can be read off a text from left to right: a blank is dropped unless a word stands
before it and another one behind, and the first of the blanks between two words becomes a space. What
becomes of a text then depends on what stands before it only so far as a word or a blank does.
-/

namespace DifferenceTypes

/-- What stands before the rest of a text: no word, a word, or a word and blanks. -/
inductive Text.Before where
  | nothing
  | word
  | blanks
  deriving DecidableEq

namespace Text

/-- What stands before a text behind one more blank. -/
def Before.blank : Before → Before
  | .nothing => .nothing
  | .word | .blanks => .blanks

/-- What a text becomes behind other text. -/
def collapseBehind : Before → Text → Text
  | _, [] => []
  | before, point :: rest =>
    if point.isBlank then collapseBehind before.blank rest
    else if before = .blanks then .scalar ' ' :: point :: collapseBehind .word rest
    else point :: collapseBehind .word rest

/-- What stands before the text that follows another one. -/
def Before.behind : Before → Text → Before
  | before, [] => before
  | before, point :: rest => behind (if point.isBlank then before.blank else .word) rest

variable {text : Text}

theorem Before.blank_blank (before : Before) : before.blank.blank = before.blank := by
  cases before <;> rfl

theorem collapseBehind_append (before : Before) (front rest : Text) :
    collapseBehind before (front ++ rest) =
      collapseBehind before front ++ collapseBehind (before.behind front) rest := by
  induction front generalizing before with
  | nil => rfl
  | cons point front inductionHypothesis =>
    simp only [List.cons_append, collapseBehind, Before.behind, inductionHypothesis]
    split
    · rfl
    · split <;> rfl

theorem words_cons_blank {point : CodePoint} (blank : point.isBlank = true) (rest : Text) :
    words (point :: rest) = words rest := by
  rw [words.eq_def]
  exact if_pos blank

theorem collapseBehind_blanks (text : Text) :
    collapseBehind .blanks text =
      if words text = [] then [] else .scalar ' ' :: collapseBehind .nothing text := by
  induction text with
  | nil => rfl
  | cons point rest inductionHypothesis =>
    by_cases blank : point.isBlank = true
    · simp only [collapseBehind, if_pos blank, Before.blank, words_cons_blank blank, inductionHypothesis]
    · have someWord : words (point :: rest) ≠ [] := by
        rw [words.eq_def]
        simp only [if_neg blank]
        split
        · simp
        · split
          · simp
          · split <;> simp
      simp [collapseBehind, blank, someWord]

/-- Words with spaces between them are what a text becomes. -/
theorem collapseBlanks_eq (text : Text) : text.collapseBlanks = collapseBehind .nothing text := by
  unfold collapseBlanks
  induction text with
  | nil => rfl
  | cons point rest inductionHypothesis =>
    by_cases blank : point.isBlank = true
    · rw [words_cons_blank blank, inductionHypothesis]
      simp [collapseBehind, blank, Before.blank]
    · have opened : collapseBehind .nothing (point :: rest) = point :: collapseBehind .word rest := by
        simp [collapseBehind, blank]
      rw [opened, words.eq_def]
      simp only [if_neg blank]
      cases rest with
      | nil => rfl
      | cons next rest =>
        by_cases ends : next.isBlank = true
        · have behind : collapseBehind .word (next :: rest) = collapseBehind .blanks (next :: rest) := by
            simp [collapseBehind, ends, Before.blank]
          rw [behind, collapseBehind_blanks, ← inductionHypothesis]
          simp only [if_pos ends]
          cases words (next :: rest) <;> rfl
        · have behind : collapseBehind .word (next :: rest) = collapseBehind .nothing (next :: rest) := by
            simp [collapseBehind, ends]
          rw [behind, ← inductionHypothesis]
          simp only [if_neg ends]
          cases words (next :: rest) with
          | nil => rfl
          | cons word others => cases others <;> rfl

/-- Line ends are blanks, however they are written. -/
theorem collapseBehind_unifyLineEnds (before : Before) (text : Text) :
    collapseBehind before text.unifyLineEnds = collapseBehind before text := by
  have lineEnd (before : Before) (rest : Text) :
      collapseBehind before (.scalar '\n' :: rest) = collapseBehind before.blank rest := rfl
  have return_ (before : Before) (rest : Text) :
      collapseBehind before (.scalar '\r' :: rest) = collapseBehind before.blank rest := rfl
  induction text generalizing before with
  | nil => rfl
  | cons point rest inductionHypothesis =>
    unfold unifyLineEnds
    split
    · next isReturn =>
      obtain rfl := eq_of_beq isReturn
      split
      · next feeds =>
        obtain ⟨behind, rfl⟩ := List.head?_eq_some_iff.1 (eq_of_beq feeds)
        rw [inductionHypothesis, return_, lineEnd, lineEnd, Before.blank_blank]
      · rw [lineEnd, return_, inductionHypothesis]
    · simp only [collapseBehind, inductionHypothesis]

theorem collapseBlanks_unifyLineEnds (text : Text) : text.unifyLineEnds.collapseBlanks = text.collapseBlanks := by
  rw [collapseBlanks_eq, collapseBlanks_eq, collapseBehind_unifyLineEnds]

/-- The only blanks that are left are spaces. -/
theorem eq_space_of_mem_collapseBehind {before : Before} {text : Text} {point : CodePoint}
    (among : point ∈ collapseBehind before text) (blank : point.isBlank = true) : point = .scalar ' ' := by
  induction text generalizing before with
  | nil => exact nomatch among
  | cons first rest inductionHypothesis =>
    unfold collapseBehind at among
    split at among
    · exact inductionHypothesis among
    · next solid =>
      have kept {before : Before} (among : point ∈ first :: collapseBehind before rest) :
          point = .scalar ' ' := by
        rcases List.mem_cons.1 among with rfl | behind
        · exact absurd blank solid
        · exact inductionHypothesis behind
      split at among
      · rcases List.mem_cons.1 among with rfl | behind
        · rfl
        · exact kept behind
      · exact kept among

/-! ### Texts that stay as they are -/

theorem length_collapseBehind_le (before : Before) (text : Text) :
    (collapseBehind before text).length ≤ text.length + if before = .blanks then 1 else 0 := by
  induction text generalizing before with
  | nil => simp [collapseBehind]
  | cons point rest inductionHypothesis =>
    have word := inductionHypothesis .word
    have blank := inductionHypothesis before.blank
    unfold collapseBehind
    cases before <;> split <;> simp_all [Before.blank] <;> omega

/-- A text that collapsing leaves as it is, and that is not empty. -/
structure IsTight (text : Text) : Prop where
  nonempty : text ≠ []
  kept : text.collapseBlanks = text

instance : DecidablePred IsTight := fun text =>
  decidable_of_iff (text ≠ [] ∧ text.collapseBlanks = text) ⟨fun ⟨some_, same⟩ => ⟨some_, same⟩,
    fun ⟨some_, same⟩ => ⟨some_, same⟩⟩

namespace IsTight

variable (tight : text.IsTight)
include tight

/-- It starts with no blank. -/
theorem isBlank_head {point : CodePoint} {rest : Text} (starts : text = point :: rest) :
    point.isBlank = false := by
  subst starts
  cases blank : point.isBlank with
  | false => rfl
  | true =>
    have shorter := length_collapseBehind_le .nothing rest
    have kept := tight.kept
    rw [collapseBlanks_eq, Text.collapseBehind, if_pos blank] at kept
    rw [show collapseBehind .nothing rest = point :: rest from kept, List.length_cons, if_neg nofun] at shorter
    omega

/-- It ends with no blank. -/
theorem isBlank_last {point : CodePoint} {front : Text} (ends : text = front ++ [point]) :
    point.isBlank = false := by
  subst ends
  cases blank : point.isBlank with
  | false => rfl
  | true =>
    have shorter := length_collapseBehind_le .nothing front
    have kept := tight.kept
    have none (before : Before) : collapseBehind before [point] = [] := if_pos blank
    rw [collapseBlanks_eq, collapseBehind_append, none, List.append_nil] at kept
    rw [kept, List.length_append, List.length_singleton, if_neg nofun] at shorter
    omega

/-- Behind a word it stays as it is, and so it does behind blanks, with a space before it. -/
theorem collapseBehind (before : Before) : Text.collapseBehind before text =
    if before = .blanks then .scalar ' ' :: text else text := by
  have kept := tight.kept
  rw [collapseBlanks_eq] at kept
  cases text with
  | nil => exact absurd rfl tight.nonempty
  | cons point rest =>
    have solid := tight.isBlank_head rfl
    simp only [Text.collapseBehind, solid, Bool.false_eq_true, if_false, reduceCtorEq] at kept ⊢
    split <;> rw [kept]

theorem behind (before : Before) : before.behind text = .word := by
  obtain ⟨front, point, rfl⟩ := List.eq_nil_or_concat text |>.resolve_left tight.nonempty
  rw [List.concat_eq_append] at tight ⊢
  have solid := tight.isBlank_last rfl
  clear tight
  induction front generalizing before with
  | nil => simp [Before.behind, solid]
  | cons first front inductionHypothesis => exact inductionHypothesis _

end IsTight

/-- Blanks alone become nothing. -/
theorem collapseBehind_of_blank {gap : Text} (blank : ∀ point ∈ gap, point.isBlank = true)
    (before : Before) : collapseBehind before gap = [] := by
  induction gap generalizing before with
  | nil => rfl
  | cons point gap inductionHypothesis =>
    rw [collapseBehind, if_pos (blank _ List.mem_cons_self)]
    exact inductionHypothesis (fun _ among => blank _ (List.mem_cons_of_mem _ among)) _

theorem Before.behind_of_blank {gap : Text} (blank : ∀ point ∈ gap, point.isBlank = true)
    (before : Before) : before.behind gap = if gap = [] then before else before.blank := by
  induction gap generalizing before with
  | nil => rfl
  | cons point gap inductionHypothesis =>
    rw [Before.behind, if_pos (blank _ List.mem_cons_self),
      inductionHypothesis fun _ among => blank _ (List.mem_cons_of_mem _ among)]
    split
    · rfl
    · exact before.blank_blank

end Text

end DifferenceTypes
