import DifferenceTypes.Proofs.Syntax.Segments
import DifferenceTypes.Proofs.Template.LogicalLines

/-!
# Cuts of source lines

A position of syntax counts lines and bytes of the source that the parser takes, whose line ends are
unified. On the source lines of the text itself it names the same place: a line of that number and a
column between two of its characters. So whatever a span names can be cut out (`Module.exists_isOf`),
and a line on which a statement ends is there (`Module.stop_line_le`).
-/

namespace DifferenceTypes

open Lexer

/-- A position is between two characters of a source line of the text; a line that is not there counts
as empty. -/
def Text.CutsAt (text : Text) (position : Position) : Prop :=
  ∃ before after, (text.sourceLines[position.line - 1]?).getD [] = ofCharacters before ++ after ∧
    position.column = (Utf8.encodeCharacters before).length

namespace Text

variable {text : Text}

/-- The position after some of the characters of a text with unified line ends is one in the text. -/
theorem cutsAt_advanceAll {front rest : List Char}
    (unified : text.unifyLineEnds = ofCharacters (front ++ rest)) :
    text.CutsAt (advanceAll ⟨1, 0⟩ front) := by
  obtain ⟨rows, inside, others, position, cut, -⟩ := hasPlace_of_unified unified
  obtain ⟨after, line⟩ := cut.line
  rw [position]
  exact ⟨inside, after, line, rfl⟩

/-- Where the parser takes a source from a text, a position in the source is one in the text. -/
theorem cutsAt_of_standsIn {characters source ending : List Char}
    (unified : text.unifyLineEnds = ofCharacters characters) (isEnding : ending = [] ∨ ending = ['\n'])
    (whole : source = characters ++ ending) {position : Position} (stands : StandsIn source position) :
    text.CutsAt position := by
  obtain ⟨front, behind, split, nonempty, rfl⟩ := stands
  rw [whole] at split
  rcases isEnding with rfl | rfl
  · rw [List.append_nil] at split
    subst split
    exact cutsAt_advanceAll unified
  · obtain ⟨rest, last, rfl⟩ := List.eq_nil_or_concat behind |>.resolve_left nonempty
    rw [List.concat_eq_append, ← List.append_assoc] at split
    obtain ⟨rfl, -⟩ := List.append_inj' split rfl
    exact cutsAt_advanceAll unified

/-- A position that is not at the start of its line is on a line that is there. -/
theorem CutsAt.line_le {position : Position} (cuts : text.CutsAt position) (inside : 0 < position.column)
    (positive : 1 ≤ position.line) : position.line ≤ text.sourceLines.length := by
  obtain ⟨before, after, same, column⟩ := cuts
  by_contra beyond
  have none : text.sourceLines[position.line - 1]? = none := List.getElem?_eq_none (by omega)
  rw [none, Option.getD_none] at same
  obtain ⟨empty, -⟩ := List.append_eq_nil_iff.1 same.symm
  obtain rfl := List.map_eq_nil_iff.1 empty
  rw [column] at inside
  exact absurd inside (by decide)

theorem column_pos_of_endsIn {source : List Char} {position : Position} (ends : EndsIn source position) :
    0 < position.column ∧ 1 ≤ position.line := by
  obtain ⟨front, last, behind, -, -, other, rfl⟩ := ends
  refine ⟨?_, line_le_advanceAll ⟨1, 0⟩ _⟩
  rw [advanceAll_append]
  have step : advanceAll (advanceAll ⟨1, 0⟩ front) [last] = advance (advanceAll ⟨1, 0⟩ front) last := rfl
  rw [step, advance, if_neg (by simpa using other)]
  have positive : 0 < Utf8.width last := by
    unfold Utf8.width Utf8.encodeCharacter
    dsimp only
    split
    · exact Nat.one_pos
    · split
      · exact Nat.two_pos
      · split <;> exact Nat.succ_pos _
  exact Nat.add_pos_right _ positive

end Text

/-- A span is one of the text: its two positions are there, as far as it has tokens, and its end is on a
line that is there. -/
structure Span.IsOf (text : Text) (span : Span) : Prop where
  start : text.CutsAt span.start
  stop : text.CutsAt span.stop
  startLine : span.start = default ∨ 1 ≤ span.start.line
  stopLine : span.stop = default ∨ 1 ≤ span.stop.line
  last : span.stop.line ≤ text.sourceLines.length

theorem Text.cutsAt_default (text : Text) : text.CutsAt default :=
  ⟨[], _, rfl, rfl⟩

/-- A text with statements has no lone surrogates. -/
theorem Module.exists_characters_of_ofText {text : Text} {module : Module} (read : ofText text = .ok module) :
    ∃ characters, text = Text.ofCharacters characters := by
  unfold ofText at read
  split at read
  · exact nomatch read
  · next characters isText => exact ⟨characters, (Text.ofCharacters_of_characters? isText).symm⟩

/-- All spans of a module, at any depth, are those of its text. -/
theorem Module.exists_isOf {text : Text} {module : Module} (read : ofText text = .ok module) :
    ∃ marked : List (Stmt { span : Span // span.IsOf text }), module = Stmt.mapAll Subtype.val marked := by
  obtain ⟨characters, source, ending, lines, unified, -, isEnding, whole, -, -, parsed⟩ := exists_of_ofText read
  obtain ⟨marked, rfl⟩ := exists_placed parsed
  have isOf {span : Span} (placed : span.IsPlaced (withFinalLineEnd source)) : span.IsOf text := by
    have cuts {position : Position}
        (stands : position = default ∨ StandsIn (withFinalLineEnd source) position) : text.CutsAt position := by
      rcases stands with rfl | stands
      · exact text.cutsAt_default
      · exact Text.cutsAt_of_standsIn unified isEnding whole stands
    have numbered {position : Position} (stands : StandsIn (withFinalLineEnd source) position) :
        1 ≤ position.line := by
      obtain ⟨front, behind, -, -, rfl⟩ := stands
      exact line_le_advanceAll ⟨1, 0⟩ front
    refine ⟨cuts placed.start, cuts (placed.stop.imp_right EndsIn.standsIn), placed.start.imp_right numbered,
      placed.stop.imp_right fun ends => numbered ends.standsIn, ?_⟩
    rcases placed.stop with none | ends
    · rw [none]
      exact Nat.zero_le _
    · obtain ⟨column, line⟩ := Text.column_pos_of_endsIn ends
      exact (cuts (.inr ends.standsIn)).line_le column line
  refine ⟨Stmt.mapAll (fun span => ⟨span.val, isOf span.property⟩) marked, ?_⟩
  rw [Stmt.mapAll_mapAll]
  rfl

/-- The statements of a module end on lines that are there. -/
theorem Module.stop_line_le {text : Text} {module : Module} (read : ofText text = .ok module)
    {statement : Stmt} (among : statement ∈ module) : statement.span.stop.line ≤ text.sourceLines.length := by
  obtain ⟨marked, rfl⟩ := exists_isOf read
  rw [Stmt.mapAll_eq_map] at among
  obtain ⟨written, -, rfl⟩ := List.mem_map.1 among
  rw [Stmt.span_map]
  exact written.span.property.last

/-! ### What spans cut out -/

namespace Text

/-- A place in a text without lone surrogates is between characters of a line. -/
theorem CutsAt.exists_between {characters : List Char} {position : Position}
    (cuts : CutsAt (ofCharacters characters) position) :
    ∃ before after, ((ofCharacters characters).sourceLines[position.line - 1]?).getD [] =
        ofCharacters (before ++ after) ∧ position.column = (Utf8.encodeCharacters before).length := by
  obtain ⟨before, after, same, column⟩ := cuts
  obtain ⟨others, line⟩ := exists_line_ofCharacters same
  exact ⟨before, others, line, column⟩

/-- What a span of a text covers can be cut out. -/
theorem exists_segment {characters : List Char} {span : Span} (isOf : span.IsOf (ofCharacters characters)) :
    ∃ part, (ofCharacters characters).segment span = .ok part := by
  obtain ⟨before, after, first, start⟩ := isOf.start.exists_between
  obtain ⟨front, behind, last, stop⟩ := isOf.stop.exists_between
  unfold segment
  dsimp only
  split
  · next same =>
    rw [eq_of_beq same] at first ⊢
    rw [first, start, stop]
    have sameLine : before ++ after = front ++ behind :=
      List.map_injective_iff.2 (fun _ _ => CodePoint.scalar.inj) (first.symm.trans last)
    exact exists_between_ofCharacters rfl sameLine
  · rw [first, last, start, stop, fromColumn_ofCharacters, upToColumn_ofCharacters]
    exact ⟨_, rfl⟩

end Text

end DifferenceTypes
