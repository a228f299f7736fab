import DifferenceTypes.Text.Lines
import Mathlib.Data.List.Chain

/-!
# Source lines and unified line ends

A text that ends with a line end is a list of source lines, each with its end, and unified every one
of them has exactly one line feed. Lines can be taken out and others put in between; only where a
carriage return comes before a line feed in this way do two line ends become one.
-/

namespace DifferenceTypes.Text

/-- The end of a text and the start of the one behind it are one line end. -/
def Meets (front behind : Text) : Prop :=
  front.getLast? = some (.scalar '\r') ∧ behind.head? = some (.scalar '\n')

instance (front behind : Text) : Decidable (Meets front behind) :=
  inferInstanceAs (Decidable (_ ∧ _))

/-- What becomes of a code point depends on the next one only. -/
theorem exists_unifyLineEnds_cons (point : CodePoint) (next : Option CodePoint) :
    ∃ start, ∀ rest : Text, rest.head? = next →
      unifyLineEnds (point :: rest) = start ++ unifyLineEnds rest := by
  by_cases isReturn : point = .scalar '\r'
  · by_cases isFeed : next = some (.scalar '\n')
    · exact ⟨[], fun rest head => by simp [unifyLineEnds, isReturn, head, isFeed]⟩
    · exact ⟨[.scalar '\n'], fun rest head => by simp [unifyLineEnds, isReturn, head, isFeed]⟩
  · exact ⟨[point], fun rest head => by simp [unifyLineEnds, isReturn]⟩

/-- Line ends are unified in two texts apart, unless one line end is cut in two between them. -/
theorem unifyLineEnds_append {front behind : Text} (apart : ¬Meets front behind) :
    unifyLineEnds (front ++ behind) = unifyLineEnds front ++ unifyLineEnds behind := by
  induction front with
  | nil => rfl
  | cons point rest inductionHypothesis =>
    cases rest with
    | nil =>
      simp only [Meets, List.getLast?_singleton, Option.some.injEq, not_and] at apart
      by_cases isReturn : point = .scalar '\r'
      · simp [unifyLineEnds, isReturn, apart isReturn]
      · simp [unifyLineEnds, isReturn]
    | cons second others =>
      have later := inductionHypothesis (by simpa [Meets, List.getLast?_cons_cons] using apart)
      obtain ⟨start, always⟩ := exists_unifyLineEnds_cons point (some second)
      rw [List.cons_append, always (second :: others ++ behind) rfl, always (second :: others) rfl,
        later, List.append_assoc]

/-- A line end that was cut in two counts once when it is put together. -/
theorem unifyLineEnds_append_of_meets {front behind : Text}
    (ends : front.getLast? = some (.scalar '\r')) :
    unifyLineEnds (front ++ .scalar '\n' :: behind) =
      unifyLineEnds front ++ unifyLineEnds behind := by
  induction front with
  | nil => exact nomatch ends
  | cons point rest inductionHypothesis =>
    cases rest with
    | nil =>
      obtain rfl := Option.some.inj ends
      simp [unifyLineEnds]
    | cons second others =>
      have later := inductionHypothesis (by simpa [List.getLast?_cons_cons] using ends)
      obtain ⟨start, always⟩ := exists_unifyLineEnds_cons point (some second)
      rw [List.cons_append, always (second :: others ++ .scalar '\n' :: behind) rfl,
        always (second :: others) rfl, later, List.append_assoc]

/-! ### Source lines -/

/-- A source line with its end. -/
def IsSourceLine (line : Text) : Prop :=
  ∃ body : Text, (∀ point ∈ body, point.endsSourceLine = false) ∧
    (line = body ++ [CodePoint.scalar '\n'] ∨ line = body ++ [CodePoint.scalar '\r'] ∨
      line = body ++ [CodePoint.scalar '\r', .scalar '\n'])

/-- Source lines one behind the other: each has its end, and no end is cut in two. -/
def AreSourceLines (lines : List Text) : Prop :=
  (∀ line ∈ lines, IsSourceLine line) ∧ lines.IsChain fun line next => ¬Meets line next

/-- A text that ends with a line end. -/
def IsTerminated (text : Text) : Prop :=
  ∀ last, text.getLast? = some last → last.endsSourceLine = true

theorem IsTerminated.tail {point : CodePoint} {rest : Text} (terminated : IsTerminated (point :: rest)) :
    IsTerminated rest := by
  cases rest with
  | nil => exact nofun
  | cons second others => simpa [IsTerminated, List.getLast?_cons_cons] using terminated

/-- The first line starts as the text does. -/
theorem head?_of_sourceLines {text line : Text} {others : List Text}
    (lines : text.sourceLines = line :: others) : line.head? = text.head? ∧ line ≠ [] := by
  have nonempty : line ≠ [] := ne_nil_of_mem_linesEndingAt (by rw [← sourceLines, lines]; simp)
  have whole := flatten_linesEndingAt CodePoint.endsSourceLine text
  rw [← sourceLines, lines, List.flatten_cons] at whole
  rw [← whole, List.head?_append_of_ne_nil _ nonempty]
  exact ⟨rfl, nonempty⟩

theorem sourceLines_cons (point : CodePoint) (rest : Text) :
    sourceLines (point :: rest) =
      if point.endsSourceLine && !splitsCarriageReturn point rest then [point] :: sourceLines rest
      else match sourceLines rest with
        | [] => [[point]]
        | line :: others => (point :: line) :: others :=
  rfl

theorem sourceLines_ne_nil {point : CodePoint} {rest : Text} :
    sourceLines (point :: rest) ≠ [] := by
  intro none
  have whole := flatten_linesEndingAt CodePoint.endsSourceLine (point :: rest)
  rw [← sourceLines, none] at whole
  exact nomatch whole

/-- A text that starts with the end of a line has this end as its first line. -/
theorem sourceLines_lineFeed (rest : Text) :
    sourceLines (.scalar '\n' :: rest) = [CodePoint.scalar '\n'] :: sourceLines rest :=
  rfl

/-- A carriage return before a line that is a line feed alone is a part of its end. -/
theorem IsSourceLine.cons_return {line : Text} (isLine : IsSourceLine line)
    (isFeed : line.head? = some (.scalar '\n')) : IsSourceLine (.scalar '\r' :: line) := by
  obtain ⟨body, inside, split⟩ := isLine
  cases body with
  | nil =>
    rcases split with rfl | rfl | rfl
    · exact ⟨[], nofun, .inr (.inr rfl)⟩
    · exact nomatch isFeed
    · exact nomatch isFeed
  | cons first body =>
    have same : first = .scalar '\n' := by
      rcases split with rfl | rfl | rfl <;> exact Option.some.inj isFeed
    have clean := inside first List.mem_cons_self
    rw [same] at clean
    exact nomatch clean

/-- A line goes on to the left with what ends no line. -/
theorem IsSourceLine.cons {point : CodePoint} {line : Text} (isLine : IsSourceLine line)
    (clean : point.endsSourceLine = false) : IsSourceLine (point :: line) := by
  obtain ⟨body, inside, split⟩ := isLine
  refine ⟨point :: body, fun other member => ?_, ?_⟩
  · rcases List.mem_cons.1 member with rfl | member
    · exact clean
    · exact inside other member
  · rcases split with rfl | rfl | rfl
    · exact .inl rfl
    · exact .inr (.inl rfl)
    · exact .inr (.inr rfl)

/-- The lines of a text that ends with a line end all have their ends. -/
theorem areSourceLines_sourceLines {text : Text} (terminated : IsTerminated text) :
    AreSourceLines text.sourceLines := by
  induction text with
  | nil => exact ⟨nofun, .nil⟩
  | cons point rest inductionHypothesis =>
    obtain ⟨each, chain⟩ := inductionHypothesis terminated.tail
    by_cases ends : (point.endsSourceLine && !splitsCarriageReturn point rest) = true
    · have lines : sourceLines (point :: rest) = [point] :: sourceLines rest := if_pos ends
      obtain ⟨isEnd, whole⟩ := by simpa using ends
      rw [lines]
      refine ⟨fun line member => ?_, ?_⟩
      · rcases List.mem_cons.1 member with rfl | member
        · refine ⟨[], nofun, ?_⟩
          cases point with
          | surrogate => exact nomatch isEnd
          | scalar character =>
            have either : character = '\n' ∨ character = '\r' := by
              simpa [CodePoint.endsSourceLine] using isEnd
            rcases either with rfl | rfl
            · exact .inl rfl
            · exact .inr (.inl rfl)
        · exact each line member
      · cases later : sourceLines rest with
        | nil => exact .singleton _
        | cons line others =>
          rw [later] at chain
          refine .cons_cons (fun meets => ?_) chain
          obtain ⟨isReturn, isFeed⟩ := meets
          rw [(head?_of_sourceLines later).1] at isFeed
          simp only [List.getLast?_singleton, Option.some.injEq] at isReturn
          simp [splitsCarriageReturn, isReturn, isFeed] at whole
    · cases later : sourceLines rest with
      | nil =>
        cases rest with
        | cons second others => exact absurd later sourceLines_ne_nil
        | nil => simp [terminated point rfl, splitsCarriageReturn] at ends
      | cons line others =>
        have lines : sourceLines (point :: rest) = (point :: line) :: others := by
          rw [sourceLines_cons, if_neg ends, later]
        obtain ⟨head, nonempty⟩ := head?_of_sourceLines later
        rw [later] at each chain
        rw [lines]
        refine ⟨fun other member => ?_, ?_⟩
        · rcases List.mem_cons.1 member with rfl | member
          · have isLine := each line List.mem_cons_self
            cases isEnd : point.endsSourceLine with
            | false => exact isLine.cons isEnd
            | true =>
              obtain ⟨rfl, isFeed⟩ := by
                simpa [isEnd, splitsCarriageReturn] using ends
              exact isLine.cons_return (head.trans isFeed)
          · exact each other (List.mem_cons_of_mem _ member)
        · cases others with
          | nil => exact .singleton _
          | cons next others =>
            obtain ⟨apart, chain⟩ := List.isChain_cons_cons.1 chain
            refine .cons_cons ?_ chain
            obtain ⟨first, line, rfl⟩ := List.exists_cons_of_ne_nil nonempty
            simpa [Meets, List.getLast?_cons_cons] using apart

/-- Lines of texts one behind the other. -/
theorem sourceLines_append {front behind : Text} (terminated : IsTerminated front)
    (apart : ¬Meets front behind) :
    (front ++ behind).sourceLines = front.sourceLines ++ behind.sourceLines := by
  induction front with
  | nil => rfl
  | cons point rest inductionHypothesis =>
    have split : splitsCarriageReturn point (rest ++ behind) = splitsCarriageReturn point rest := by
      cases rest with
      | cons => rfl
      | nil =>
        simp only [Meets, List.getLast?_singleton, Option.some.injEq, not_and] at apart
        by_cases isReturn : point = .scalar '\r'
        · simp [splitsCarriageReturn, apart isReturn]
        · simp [splitsCarriageReturn, isReturn]
    have apartRest : ¬Meets rest behind := by
      cases rest with
      | nil => exact fun meets => nomatch meets.1
      | cons second others => simpa [Meets, List.getLast?_cons_cons] using apart
    have later := inductionHypothesis terminated.tail apartRest
    rw [List.cons_append, sourceLines_cons point rest, sourceLines_cons point (rest ++ behind), split,
      later]
    by_cases ends : (point.endsSourceLine && !splitsCarriageReturn point rest) = true
    · rw [if_pos ends, if_pos ends, List.cons_append]
    · rw [if_neg ends, if_neg ends]
      cases remaining : sourceLines rest with
      | cons line others => rfl
      | nil =>
        cases rest with
        | cons second others => exact absurd remaining sourceLines_ne_nil
        | nil => simp [terminated point rfl, splitsCarriageReturn] at ends

/-- A last line without an end gets one. -/
theorem sourceLines_append_lineFeed {text : Text} (open_ : ¬IsTerminated text) :
    ∃ lines last, text.sourceLines = lines ++ [last] ∧
      sourceLines (text ++ [CodePoint.scalar '\n']) = lines ++ [last ++ [CodePoint.scalar '\n']] := by
  induction text with
  | nil => exact absurd nofun open_
  | cons point rest inductionHypothesis =>
    cases rest with
    | nil =>
      have clean : point.endsSourceLine = false := by
        simpa [IsTerminated] using open_
      refine ⟨[], [point], ?_, ?_⟩
      · simp [sourceLines, linesEndingAt, clean]
      · rw [sourceLines, List.cons_append, linesEndingAt, if_neg (by simp [clean])]
        rfl
    | cons second others =>
      obtain ⟨lines, last, here, completed⟩ :=
        inductionHypothesis (by simpa [IsTerminated, List.getLast?_cons_cons] using open_)
      have before := sourceLines_cons point (second :: others)
      have after := sourceLines_cons point (second :: others ++ [CodePoint.scalar '\n'])
      rw [here] at before
      rw [completed, show splitsCarriageReturn point (second :: others ++ [CodePoint.scalar '\n']) =
        splitsCarriageReturn point (second :: others) from rfl] at after
      by_cases ends : (point.endsSourceLine && !splitsCarriageReturn point (second :: others)) = true
      · rw [if_pos ends] at before after
        exact ⟨[point] :: lines, last, before, after⟩
      · rw [if_neg ends] at before after
        cases lines with
        | nil => exact ⟨[], point :: last, before, after⟩
        | cons first lines => exact ⟨(point :: first) :: lines, last, before, after⟩

/-- Unified, a source line has one line end. -/
theorem IsSourceLine.unifyLineEnds {line : Text} (isLine : IsSourceLine line) :
    ∃ body, line.unifyLineEnds = body ++ [CodePoint.scalar '\n'] ∧ .scalar '\n' ∉ body := by
  obtain ⟨body, clean, split⟩ := isLine
  have noReturn : CodePoint.scalar '\r' ∉ body := fun member => nomatch clean _ member
  have noFeed : CodePoint.scalar '\n' ∉ body := fun member => nomatch clean _ member
  have same := unifyLineEnds_eq_self noReturn
  have apart (behind : Text) : ¬Meets body behind := fun meets =>
    noReturn (List.mem_of_getLast? meets.1)
  refine ⟨body, ?_, noFeed⟩
  rcases split with rfl | rfl | rfl
  · rw [unifyLineEnds_append (apart _), same]
    rfl
  · rw [unifyLineEnds_append (apart _), same]
    rfl
  · rw [unifyLineEnds_append (apart _), same]
    rfl

theorem IsSourceLine.ne_nil {line : Text} (isLine : IsSourceLine line) : line ≠ [] := by
  obtain ⟨body, -, rfl | rfl | rfl⟩ := isLine <;> simp

/-- The first of several source lines, and the others. -/
theorem AreSourceLines.cons {line : Text} {others : List Text}
    (areLines : AreSourceLines (line :: others)) :
    IsSourceLine line ∧ AreSourceLines others ∧ ¬Meets line others.flatten := by
  obtain ⟨each, chain⟩ := areLines
  refine ⟨each line List.mem_cons_self, ?_⟩
  have eachOther : ∀ other ∈ others, IsSourceLine other := fun other member =>
    each other (List.mem_cons_of_mem _ member)
  cases others with
  | nil => exact ⟨⟨nofun, .nil⟩, fun meets => nomatch meets.2⟩
  | cons next others =>
    obtain ⟨apart, chain⟩ := List.isChain_cons_cons.1 chain
    refine ⟨⟨eachOther, chain⟩, fun meets => apart ⟨meets.1, ?_⟩⟩
    rw [← meets.2, List.flatten_cons,
      List.head?_append_of_ne_nil _ (eachOther next List.mem_cons_self).ne_nil]

/-- Unified, source lines stay apart. -/
theorem AreSourceLines.unifyLineEnds_flatten {lines : List Text} (areLines : AreSourceLines lines) :
    unifyLineEnds lines.flatten = (lines.map unifyLineEnds).flatten := by
  induction lines with
  | nil => rfl
  | cons line others inductionHypothesis =>
    obtain ⟨-, areOthers, apart⟩ := areLines.cons
    rw [List.flatten_cons, unifyLineEnds_append apart, inductionHypothesis areOthers]
    rfl

/-- Source lines in two parts. -/
theorem AreSourceLines.append {front behind : List Text} (areLines : AreSourceLines (front ++ behind)) :
    AreSourceLines front ∧ AreSourceLines behind ∧ ¬Meets front.flatten behind.flatten := by
  obtain ⟨each, chain⟩ := areLines
  refine ⟨⟨fun line member => each line (List.mem_append_left _ member), chain.left_of_append⟩,
    ⟨fun line member => each line (List.mem_append_right _ member), chain.right_of_append⟩, ?_⟩
  induction front with
  | nil => exact fun meets => nomatch meets.1
  | cons line others inductionHypothesis =>
    obtain ⟨-, later, apart⟩ := AreSourceLines.cons ⟨each, chain⟩
    cases others with
    | nil => simpa using apart
    | cons next others =>
      have nonempty : (next :: others).flatten ≠ [] := by
        have isLine := later.1 next List.mem_cons_self
        simp [isLine.ne_nil]
      intro meets
      rw [List.flatten_cons, Meets, List.getLast?_append_of_ne_nil _ nonempty] at meets
      exact inductionHypothesis later.1 later.2 meets

end DifferenceTypes.Text
