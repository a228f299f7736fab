import DifferenceTypes.Proofs.Syntax.Positions
import DifferenceTypes.Proofs.Text.Utf8
import DifferenceTypes.Proofs.Syntax.SourceText
import DifferenceTypes.Syntax.Segment

/-!
# Segments of a text

Positions of syntax count the characters of a source whose line ends are unified. In the text itself
each of them is a cut: some whole source lines and the characters of the next one stand before it, and
with unified line ends these are the characters that were counted (`Text.hasPlace_of_unified`). So the segment
between two positions is what was read there (`Text.exists_segment_between`).
-/

namespace DifferenceTypes

open Lexer

theorem Lexer.advanceAll_column (first second : Nat) (characters : List Char) :
    advanceAll ⟨1, first + second⟩ characters =
      ⟨(advanceAll ⟨1, second⟩ characters).line,
        if (advanceAll ⟨1, second⟩ characters).line = 1 then
          first + (advanceAll ⟨1, second⟩ characters).column
        else (advanceAll ⟨1, second⟩ characters).column⟩ := by
  induction characters generalizing second with
  | nil => rfl
  | cons character rest inductionHypothesis =>
    by_cases ends : character = '\n'
    · subst ends
      have below := line_le_advanceAll ⟨2, 0⟩ rest
      have same : (advanceAll ⟨2, 0⟩ rest).line ≠ 1 := by
        simp only at below
        omega
      have opened (column : Nat) : advanceAll ⟨1, column⟩ ('\n' :: rest) = advanceAll ⟨2, 0⟩ rest := rfl
      rw [opened, opened, if_neg same]
    · have opened (column : Nat) : advanceAll ⟨1, column⟩ (character :: rest) =
          advanceAll ⟨1, column + Utf8.width character⟩ rest := by
        have step : advance ⟨1, column⟩ character = ⟨1, column + Utf8.width character⟩ := by
          simp [advance, ends]
        exact congrArg (advanceAll · rest) step
      rw [opened, opened, Nat.add_assoc, inductionHypothesis]

/-- Behind a line feed positions are one line further down. -/
theorem Lexer.advanceAll_lineFeed (characters : List Char) :
    advanceAll ⟨1, 0⟩ ('\n' :: characters) = (advanceAll ⟨1, 0⟩ characters).moveDown 1 :=
  advanceAll_lines (.inr ⟨[], (List.nil_append ['\n']).symm⟩) characters

namespace Text

variable {text : Text}

/-- What stands before a place of a text: some whole source lines and characters of the next one. -/
def upToPlace (text : Text) (rows : Nat) (inside : List Char) : Text :=
  (text.sourceLines.take rows).flatten ++ ofCharacters inside

/-- A place of a text cuts it in two, and it does not cut a line end in two. -/
structure IsCut (text : Text) (rows : Nat) (inside : List Char) (others : Text) : Prop where
  line : ∃ after, (text.sourceLines[rows]?).getD [] = ofCharacters inside ++ after
  lineFeed : '\n' ∉ inside
  carriageReturn : '\r' ∉ inside
  split : text = text.upToPlace rows inside ++ others
  apart : ¬Meets (text.upToPlace rows inside) others

namespace IsCut

variable {rows : Nat} {inside : List Char} {others rest : Text}

/-- What stands before a cut starts as the text does. -/
theorem not_meets {line : Text} (cut : rest.IsCut rows inside others) (apart : ¬Meets line rest) :
    ¬Meets line (rest.upToPlace rows inside) := by
  rintro ⟨ends, starts⟩
  obtain ⟨more, isBefore⟩ := List.head?_eq_some_iff.1 starts
  refine apart ⟨ends, ?_⟩
  rw [cut.split, isBefore]
  rfl

/-- The place one source line further down. -/
theorem lineBefore {line : Text} (lines : (line ++ rest).sourceLines = line :: rest.sourceLines)
    (cut : rest.IsCut rows inside others) (apart : ¬Meets line rest) :
    (line ++ rest).upToPlace (rows + 1) inside = line ++ rest.upToPlace rows inside ∧
      (line ++ rest).IsCut (rows + 1) inside others := by
  have before : (line ++ rest).upToPlace (rows + 1) inside = line ++ rest.upToPlace rows inside := by
    simp [upToPlace, lines]
  refine ⟨before, ?_, cut.lineFeed, cut.carriageReturn, ?_, ?_⟩
  · rw [lines, List.getElem?_cons_succ]
    exact cut.line
  · rw [before, List.append_assoc, ← cut.split]
  · rw [before]
    intro meets
    cases isBefore : rest.upToPlace rows inside with
    | nil =>
      have whole := cut.split
      rw [isBefore, List.nil_append] at whole
      rw [isBefore, List.append_nil] at meets
      exact apart (whole ▸ meets)
    | cons first more =>
      rw [isBefore, Meets, List.getLast?_append_of_ne_nil _ (List.cons_ne_nil _ _)] at meets
      exact cut.apart (isBefore ▸ meets)

/-- The place one character further on, or the one below it on the same line. -/
theorem characterBefore {character : Char} (cut : rest.IsCut rows inside others)
    (lineFeed : character ≠ '\n') (carriageReturn : character ≠ '\r')
    (below : rows ≠ 0 → rest ≠ []) :
    upToPlace (.scalar character :: rest) rows (if rows = 0 then character :: inside else inside) =
        .scalar character :: rest.upToPlace rows inside ∧
      IsCut (.scalar character :: rest) rows (if rows = 0 then character :: inside else inside) others := by
  have noEnd : (CodePoint.scalar character).endsSourceLine = false := by
    simp [CodePoint.endsSourceLine, lineFeed, carriageReturn]
  have lines := sourceLines_cons (.scalar character) rest
  rw [if_neg (by simp [noEnd])] at lines
  have apart {before : Text} (same : before = .scalar character :: rest.upToPlace rows inside) :
      ¬Meets before others := by
    subst same
    intro meets
    cases isBefore : rest.upToPlace rows inside with
    | nil =>
      rw [isBefore] at meets
      exact carriageReturn (CodePoint.scalar.inj (Option.some.inj meets.1))
    | cons first more =>
      rw [isBefore, Meets, List.getLast?_cons_cons] at meets
      exact cut.apart (isBefore ▸ meets)
  obtain ⟨after, isLine⟩ := cut.line
  cases rows with
  | zero =>
    rw [if_pos rfl]
    refine ⟨rfl, ⟨after, ?_⟩, ?_, ?_, congrArg (CodePoint.scalar character :: ·) cut.split, apart rfl⟩
    · rw [lines]
      cases isRest : sourceLines rest with
      | nil =>
        rw [isRest] at isLine
        obtain ⟨none, rfl⟩ := List.append_eq_nil_iff.1 isLine.symm
        obtain rfl := List.map_eq_nil_iff.1 none
        rfl
      | cons line more =>
        rw [isRest] at isLine
        exact congrArg (CodePoint.scalar character :: ·) isLine
    · simpa [lineFeed.symm] using cut.lineFeed
    · simpa [carriageReturn.symm] using cut.carriageReturn
  | succ rows =>
    rw [if_neg (Nat.succ_ne_zero rows)]
    cases isRest : sourceLines rest with
    | nil =>
      have whole := flatten_linesEndingAt CodePoint.endsSourceLine rest
      rw [← sourceLines, isRest] at whole
      exact absurd whole.symm (below (Nat.succ_ne_zero rows))
    | cons line more =>
      rw [isRest] at lines
      have before : upToPlace (.scalar character :: rest) (rows + 1) inside =
          .scalar character :: rest.upToPlace (rows + 1) inside := by
        simp [upToPlace, lines, isRest]
      refine ⟨before, ⟨after, ?_⟩, cut.lineFeed, cut.carriageReturn, ?_, apart before⟩
      · rw [isRest, List.getElem?_cons_succ] at isLine
        rw [lines, List.getElem?_cons_succ]
        exact isLine
      · rw [before, List.cons_append, ← cut.split]

end IsCut

/-- The place behind some characters of the source is one of the text. -/
def HasPlace (text : Text) (front : List Char) : Prop :=
  ∃ rows inside others, advanceAll ⟨1, 0⟩ front = ⟨rows + 1, (Utf8.encodeCharacters inside).length⟩ ∧
    text.IsCut rows inside others ∧ (text.upToPlace rows inside).unifyLineEnds = ofCharacters front

namespace HasPlace

variable {front : List Char} {rest : Text}

/-- Behind a line end places are one line further down. -/
theorem lineBefore {line : Text} (place : rest.HasPlace front)
    (lines : (line ++ rest).sourceLines = line :: rest.sourceLines) (apart : ¬Meets line rest)
    (isEnd : line.unifyLineEnds = [.scalar '\n']) : (line ++ rest).HasPlace ('\n' :: front) := by
  obtain ⟨rows, inside, others, position, cut, before⟩ := place
  obtain ⟨moved, cutBelow⟩ := cut.lineBefore lines apart
  refine ⟨rows + 1, inside, others, ?_, cutBelow, ?_⟩
  · rw [advanceAll_lineFeed, position]
    rfl
  · rw [moved, unifyLineEnds_append (cut.not_meets apart), isEnd, before]
    rfl

/-- Behind another character the places on its line are further on, by as much as it takes. -/
theorem characterBefore {character : Char} (place : rest.HasPlace front) (lineFeed : character ≠ '\n')
    (carriageReturn : character ≠ '\r') (unified : rest.unifyLineEnds = [] → front = []) :
    HasPlace (.scalar character :: rest) (character :: front) := by
  obtain ⟨rows, inside, others, position, cut, before⟩ := place
  have below : rows ≠ 0 → rest ≠ [] := by
    rintro lower rfl
    obtain rfl := unified rfl
    exact lower (Nat.succ.inj (congrArg Position.line position)).symm
  obtain ⟨moved, cutBehind⟩ := cut.characterBefore lineFeed carriageReturn below
  refine ⟨rows, _, others, ?_, cutBehind, ?_⟩
  · have step : advanceAll ⟨1, 0⟩ (character :: front) =
        advanceAll ⟨1, Utf8.width character + 0⟩ front := by
      have one : advance ⟨1, 0⟩ character = ⟨1, Utf8.width character + 0⟩ := by
        simp [advance, lineFeed]
      exact congrArg (advanceAll · front) one
    rw [step, advanceAll_column, position]
    cases rows with
    | zero => simp [Utf8.encodeCharacters, Utf8.width]
    | succ rows => simp
  · rw [moved, unifyLineEnds, if_neg (by simpa using carriageReturn), before]
    rfl

end HasPlace

/-- Each place between characters of the source is one of the text. -/
theorem hasPlace_of_unified {front rest : List Char} (unified : text.unifyLineEnds = ofCharacters (front ++ rest)) :
    text.HasPlace front := by
  generalize size : text.length = length
  induction length using Nat.strongRecOn generalizing text front with
  | ind length inductionHypothesis =>
  cases front with
  | nil => exact ⟨0, [], text, rfl, ⟨⟨_, rfl⟩, by simp, by simp, rfl, fun meets => by cases meets.1⟩, rfl⟩
  | cons character front =>
    -- A line end stands before the rest of the text, whichever it is.
    have lineEnd (line behind : Text) (whole : text = line ++ behind) (nonempty : line ≠ [])
        (lines : (line ++ behind).sourceLines = line :: behind.sourceLines) (apart : ¬Meets line behind)
        (isEnd : line.unifyLineEnds = [.scalar '\n']) : text.HasPlace (character :: front) := by
      subst whole
      rw [unifyLineEnds_append apart, isEnd] at unified
      obtain ⟨same, tail⟩ := List.cons.inj unified
      obtain rfl : character = '\n' := (CodePoint.scalar.inj same).symm
      have shorter : behind.length < length := by
        have positive := List.length_pos_iff.2 nonempty
        rw [List.length_append] at size
        omega
      exact (inductionHypothesis _ shorter tail rfl).lineBefore lines apart isEnd
    cases text with
    | nil => cases unified
    | cons point behind =>
      by_cases isReturn : point = .scalar '\r'
      · subst isReturn
        by_cases feeds : behind.head? = some (.scalar '\n')
        · obtain ⟨later, rfl⟩ := List.head?_eq_some_iff.1 feeds
          exact lineEnd [.scalar '\r', .scalar '\n'] later rfl (List.cons_ne_nil _ _) rfl
            (fun meets => by cases meets.1) rfl
        · refine lineEnd [.scalar '\r'] behind rfl (List.cons_ne_nil _ _) ?_ (fun meets => feeds meets.2) rfl
          rw [List.singleton_append, sourceLines_cons, if_pos]
          simpa [splitsCarriageReturn, CodePoint.endsSourceLine] using feeds
      · have opened : unifyLineEnds (point :: behind) = point :: unifyLineEnds behind := by
          simp [unifyLineEnds, isReturn]
        rw [opened] at unified
        obtain ⟨rfl, tail⟩ := List.cons.inj unified
        by_cases isFeed : character = '\n'
        · subst isFeed
          exact lineEnd [.scalar '\n'] behind rfl (List.cons_ne_nil _ _) rfl (fun meets => by cases meets.1) rfl
        · refine (inductionHypothesis behind.length (by simp at size; omega) tail rfl).characterBefore isFeed
            (fun same => isReturn (congrArg _ same)) fun none => ?_
          rw [none] at tail
          exact (List.append_eq_nil_iff.1 (List.map_eq_nil_iff.1 tail.symm)).1

theorem exists_ofCharacters {text : Text} (scalars : ∀ point ∈ text, ∃ character, point = .scalar character) :
    ∃ characters, text = ofCharacters characters := by
  induction text with
  | nil => exact ⟨[], rfl⟩
  | cons point rest inductionHypothesis =>
    obtain ⟨character, rfl⟩ := scalars point List.mem_cons_self
    obtain ⟨others, rfl⟩ := inductionHypothesis fun point among => scalars point (List.mem_cons_of_mem _ among)
    exact ⟨character :: others, rfl⟩

/-- Lines of a text without lone surrogates have none. -/
theorem exists_ofCharacters_of_mem {characters : List Char} {ends : CodePoint → Bool} {line : Text}
    (among : line ∈ linesEndingAt ends (ofCharacters characters)) : ∃ inside, line = ofCharacters inside := by
  refine exists_ofCharacters fun point inLine => ?_
  have inText : point ∈ ofCharacters characters := by
    rw [← flatten_linesEndingAt ends (ofCharacters characters)]
    exact List.mem_flatten.2 ⟨line, among, inLine⟩
  obtain ⟨character, -, rfl⟩ := List.mem_map.1 inText
  exact ⟨character, rfl⟩

/-- In a text without lone surrogates what stands behind characters of a line are characters, too. -/
theorem exists_line_ofCharacters {characters inside : List Char} {rows : Nat} {after : Text}
    (line : ((ofCharacters characters).sourceLines[rows]?).getD [] = ofCharacters inside ++ after) :
    ∃ others, ((ofCharacters characters).sourceLines[rows]?).getD [] = ofCharacters (inside ++ others) := by
  obtain ⟨whole, isLine⟩ : ∃ whole, ((ofCharacters characters).sourceLines[rows]?).getD [] =
      ofCharacters whole := by
    cases found : (ofCharacters characters).sourceLines[rows]? with
    | none => exact ⟨[], rfl⟩
    | some line => exact exists_ofCharacters_of_mem (List.mem_of_getElem? found)
  rw [isLine] at line
  obtain ⟨first, second, rfl, isFirst, -⟩ := List.map_eq_append_iff.1 line
  obtain rfl : first = inside := List.map_injective_iff.2 (fun _ _ => CodePoint.scalar.inj) isFirst
  exact ⟨second, isLine⟩

/-- The lines above a line, by a line above it. -/
theorem flatten_take_of_lt {lines : List Text} {first last : Nat} (below : first < last) :
    (lines.take last).flatten = (lines.take first).flatten ++ ((lines[first]?).getD [] ++
      ((lines.drop (first + 1)).take (last - first - 1)).flatten) := by
  induction lines generalizing first last with
  | nil => simp
  | cons line rest inductionHypothesis =>
    obtain ⟨last, rfl⟩ := Nat.exists_eq_succ_of_ne_zero (Nat.ne_zero_of_lt below)
    cases first with
    | zero => simp
    | succ first =>
      have later := inductionHypothesis (Nat.lt_of_succ_lt_succ below)
      simp [later]

/-- What is read between two positions of the source is what the text has there, its line ends
unified. -/
theorem exists_segment_between {characters front part rest : List Char}
    (unified : (ofCharacters characters).unifyLineEnds = ofCharacters (front ++ (part ++ rest))) :
    ∃ found, (ofCharacters characters).segment ⟨advanceAll ⟨1, 0⟩ front, advanceAll ⟨1, 0⟩ (front ++ part)⟩ =
        .ok found ∧ found.unifyLineEnds = ofCharacters part := by
  obtain ⟨first, inside, others, start, cut, before⟩ := hasPlace_of_unified unified
  rw [← List.append_assoc] at unified
  obtain ⟨last, within, behind, stop, cutBehind, beforeBehind⟩ := hasPlace_of_unified unified
  obtain ⟨after, isFirst⟩ := exists_line_ofCharacters cut.line.choose_spec
  obtain ⟨remaining, isLast⟩ := exists_line_ofCharacters cutBehind.line.choose_spec
  have injective {one other : List Char} (same : ofCharacters one = ofCharacters other) : one = other :=
    List.map_injective_iff.2 (fun _ _ => CodePoint.scalar.inj) same
  have lower : first ≤ last := by
    have below := line_le_advanceAll (advanceAll ⟨1, 0⟩ front) part
    rw [← advanceAll_append, start, stop] at below
    simpa using below
  -- The two places cut out a segment, and what stands before the second goes up to its end.
  obtain ⟨found, cutsOut, split⟩ : ∃ found, (ofCharacters characters).segment
      ⟨advanceAll ⟨1, 0⟩ front, advanceAll ⟨1, 0⟩ (front ++ part)⟩ = .ok found ∧
        (ofCharacters characters).upToPlace last within =
          (ofCharacters characters).upToPlace first inside ++ found := by
    unfold segment
    rw [start, stop]
    simp only [Nat.add_sub_cancel]
    rcases Nat.eq_or_lt_of_le lower with rfl | below
    · rw [if_pos (beq_self_eq_true _), isFirst]
      have sameLine := injective (isFirst.symm.trans isLast)
      obtain ⟨middle, rfl⟩ : ∃ middle, within = inside ++ middle := by
        rcases List.append_eq_append_iff.1 sameLine with ⟨middle, same, -⟩ | ⟨middle, rfl, -⟩
        · exact ⟨middle, same⟩
        · -- Fewer characters would be counted up to the second place.
          have inside {character : Char} (among : CodePoint.scalar character ∈ ofCharacters middle) :
              character ∈ within ++ middle := by
            obtain ⟨same, isMember, isSame⟩ := List.mem_map.1 among
            exact List.mem_append_right _ (CodePoint.scalar.inj isSame ▸ isMember)
          have noReturn : CodePoint.scalar '\r' ∉ ofCharacters middle := fun among =>
            cut.carriageReturn (inside among)
          have apart : ¬Meets ((ofCharacters characters).upToPlace first within) (ofCharacters middle) :=
            fun meets => cut.lineFeed (inside (List.mem_of_head? meets.2))
          have longer : (ofCharacters characters).upToPlace first (within ++ middle) =
              (ofCharacters characters).upToPlace first within ++ ofCharacters middle := by
            simp [upToPlace, ofCharacters]
          rw [longer, unifyLineEnds_append apart, beforeBehind, unifyLineEnds_eq_self noReturn] at before
          have lengths := congrArg List.length before
          simp only [List.length_append, ofCharacters, List.length_map] at lengths
          obtain rfl : middle = [] := List.length_eq_zero_iff.1 (by omega)
          exact ⟨[], by simp⟩
      refine ⟨ofCharacters middle, ?_, by simp [upToPlace, ofCharacters]⟩
      rw [sameLine]
      exact between_ofCharacters inside middle remaining
    · rw [if_neg (by simp; omega), isFirst, isLast, fromColumn_ofCharacters, upToColumn_ofCharacters]
      refine ⟨_, rfl, ?_⟩
      unfold upToPlace
      rw [flatten_take_of_lt below, isFirst, ofCharacters_append]
      simp
  refine ⟨found, cutsOut, ?_⟩
  have apart : ¬Meets ((ofCharacters characters).upToPlace first inside) found := by
    rintro ⟨ends, starts⟩
    obtain ⟨more, rfl⟩ := List.head?_eq_some_iff.1 starts
    have whole := cut.split.symm.trans cutBehind.split
    rw [split, List.append_assoc] at whole
    refine cut.apart ⟨ends, ?_⟩
    rw [List.append_cancel_left whole]
    rfl
  rw [split, unifyLineEnds_append apart, before, ofCharacters_append] at beforeBehind
  exact List.append_cancel_left beforeBehind

end Text

end DifferenceTypes
