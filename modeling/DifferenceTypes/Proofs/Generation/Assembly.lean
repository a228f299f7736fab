import DifferenceTypes.Proofs.Generation.LineEdits
import Mathlib.Data.List.Nodup

/-!
# The pieces of a generated module

A generated module is put together from pieces: lines of the template, the imports that are put in, and the
code of the blocks. Whatever the blocks are, if they end on lines of their own that are below the import line
and in no marker, the lines are those of the template that are in no marker, each block has its code directly
behind its last line, and the imports come once and before all code, if there are any
(`Template.exists_assembly`).

Blocks need not come from the template's own classes here: what they say about its lines is all that counts.
Those of an accepted template are so placed, if its lines are numbered alike down to the last edit
(`Template.isPlaced_of_read`).
-/

namespace DifferenceTypes

namespace Template

/-! ### Pieces -/

/-- A piece of a generated module: a line of the template with its number, the imports that are put in, or the
code of a block. -/
inductive Piece where
  | line (text : Text) (number : Nat)
  | imports
  | code (block : Block)

/-- The line that a piece is, with its number. -/
def Piece.line? : Piece → Option (Text × Nat)
  | .line text number => some (text, number)
  | _ => none

/-- The block that a piece is the code of. -/
def Piece.block? : Piece → Option Block
  | .code block => some block
  | _ => none

/-- The text of a piece. Imports are set off by an empty line, from what is above them or, if they come before
the first line, from what is below; code is set off from both. -/
def pieceText (template : Template) : Piece → Text
  | .line text _ => text
  | .imports =>
    if template.module.importLine = 0 then template.imports.flatten ++ "\n" else "\n" ++ template.imports.flatten
  | .code block => "\n\n" ++ Code.render block ++ "\n"

/-- The line end between a piece and the next ones: the one that a line lacks, if something is put in behind
it. -/
def lineEndBetween : Piece → List Piece → Text
  | .line text _, .imports :: _ | .line text _, .code _ :: _ => missingLineEnd text
  | _, _ => []

/-- The text of pieces. -/
def assemble (template : Template) : List Piece → Text
  | [] => []
  | piece :: rest => template.pieceText piece ++ lineEndBetween piece rest ++ template.assemble rest

/-- A line is in a marker of a block. -/
def IsInMarker (template : Template) (number : Int) : Prop :=
  ∃ block ∈ template.blocks, ∃ lines ∈ block.markerLines, lines.1 ≤ number ∧ number ≤ lines.2

instance (template : Template) (number : Int) : Decidable (template.IsInMarker number) :=
  inferInstanceAs (Decidable (∃ block ∈ template.blocks, ∃ lines ∈ block.markerLines,
    lines.1 ≤ number ∧ number ≤ lines.2))

/-- The blocks end on lines that are there, each on one of its own, below the import line and in no marker, and
the import line is there and in no marker either. It may be zero, which is before the first line. -/
structure IsPlaced (template : Template) : Prop where
  stops : ∀ block ∈ template.blocks, (template.module.importLine : Int) < block.stop ∧
    block.stop ≤ template.text.displayLines.length ∧ ¬template.IsInMarker block.stop
  apart : (template.blocks.map Block.stop).Nodup
  importLine_le : template.module.importLine ≤ template.text.displayLines.length
  importLine_not_inMarker : ¬template.IsInMarker template.module.importLine

instance (template : Template) : Decidable template.IsPlaced :=
  decidable_of_iff ((∀ block ∈ template.blocks, (template.module.importLine : Int) < block.stop ∧
      block.stop ≤ template.text.displayLines.length ∧ ¬template.IsInMarker block.stop) ∧
    (template.blocks.map Block.stop).Nodup ∧
    template.module.importLine ≤ template.text.displayLines.length ∧
    ¬template.IsInMarker template.module.importLine)
    ⟨fun ⟨stops, apart, inside, unmarked⟩ => ⟨stops, apart, inside, unmarked⟩,
      fun ⟨stops, apart, inside, unmarked⟩ => ⟨stops, apart, inside, unmarked⟩⟩

/-- What pieces are the right ones for a template. -/
structure IsAssembly (template : Template) (pieces : List Piece) : Prop where
  /-- The lines are those that are in no marker, in their order. -/
  lines : pieces.filterMap Piece.line? =
    (template.text.displayLines.zipIdx 1).filter fun line => ¬template.IsInMarker line.2
  /-- Each block has its code once. -/
  blocks : (pieces.filterMap Piece.block?).Perm template.blocks
  /-- The code of a block stands directly behind the line on which the block ends. -/
  code : ∀ block ∈ template.blocks, ∃ (front : List Piece) (line : Text) (number : Nat)
    (behind : List Piece), pieces = front ++ .line line number :: .code block :: behind ∧ number = block.stop
  /-- Imports that are not needed are not put in. -/
  notImported : template.imports = [] → Piece.imports ∉ pieces
  /-- Imports come once, before all code, and directly behind the import line or before everything. -/
  imported : template.imports ≠ [] → ∃ front behind : List Piece, pieces = front ++ .imports :: behind ∧
    Piece.imports ∉ front ∧ Piece.imports ∉ behind ∧ (∀ block, Piece.code block ∉ front) ∧
    (template.module.importLine = 0 ∧ front = [] ∨
      ∃ others line, front = others ++ [.line line template.module.importLine])

/-! ### The pieces of a line -/

/-- What is put in behind a line. -/
def piecesBehind (template : Template) (number : Nat) : List Piece :=
  (if number = template.module.importLine ∧ template.imports ≠ [] then [.imports] else []) ++
    (template.blockAt? number).toList.map .code

/-- What becomes of a line. -/
def piecesOfLine (template : Template) (line : Text × Nat) : List Piece :=
  if template.IsInMarker line.2 then [] else .line line.1 line.2 :: template.piecesBehind line.2

/-- What comes before the first line. -/
def piecesBefore (template : Template) : List Piece :=
  if template.module.importLine = 0 ∧ template.imports ≠ [] then [.imports] else []

/-- All pieces of a template. -/
def pieces (template : Template) : List Piece :=
  template.piecesBefore ++ (template.text.displayLines.zipIdx 1).flatMap template.piecesOfLine

/-! ### The text of the pieces -/

theorem isMarkerLine_iff_isInMarker (template : Template) (number : Nat) :
    template.isMarkerLine number = true ↔ template.IsInMarker number := by
  simp [isMarkerLine, IsInMarker]

/-- Imports that are needed are not empty. -/
theorem isEmpty_flatten_imports (template : Template) :
    template.imports.flatten.isEmpty = template.imports.isEmpty := by
  rw [Bool.eq_iff_iff, List.isEmpty_iff, List.isEmpty_iff]
  constructor
  · intro empty
    by_contra needed
    have ends := template.getLast?_imports fun none => needed (by rw [imports_eq, none]; rfl)
    rw [empty] at ends
    exact nomatch ends
  · intro none
    rw [none]
    rfl

theorem assemble_append (template : Template) (first second : List Piece)
    (apart : ∀ piece, lineEndBetween piece second = []) :
    template.assemble (first ++ second) = template.assemble first ++ template.assemble second := by
  induction first with
  | nil => rfl
  | cons piece rest inductionHypothesis =>
    have same : lineEndBetween piece (rest ++ second) = lineEndBetween piece rest := by
      cases rest with
      | nil => exact (apart piece).trans (by cases piece <;> rfl)
      | cons next _ => cases piece <;> cases next <;> rfl
    rw [List.cons_append, assemble, assemble, inductionHypothesis, same, List.append_assoc _ (assemble _ _)]

/-- Nothing comes between pieces that are put in. -/
theorem assemble_of_inserted (template : Template) {pieces : List Piece}
    (inserted : ∀ piece ∈ pieces, piece.line? = none) :
    template.assemble pieces = (pieces.map template.pieceText).flatten := by
  induction pieces with
  | nil => rfl
  | cons piece rest inductionHypothesis =>
    have alone : lineEndBetween piece rest = [] := by
      cases piece with
      | line => exact nomatch inserted _ List.mem_cons_self
      | _ => rfl
    rw [assemble, alone, inductionHypothesis fun other among => inserted other (List.mem_cons_of_mem _ among),
      List.append_nil, List.map_cons, List.flatten_cons]

/-- What is put in behind a line: the imports if it is the import line, and code if a block ends there. -/
theorem mem_piecesBehind {template : Template} {number : Nat} {piece : Piece}
    (among : piece ∈ template.piecesBehind number) :
    piece = .imports ∧ number = template.module.importLine ∧ template.imports ≠ [] ∨
      ∃ block ∈ template.blocks, piece = .code block ∧ block.stop = number := by
  rcases List.mem_append.1 among with isImports | isCode
  · split at isImports
    · next imported => exact .inl ⟨List.mem_singleton.1 isImports, imported⟩
    · exact nomatch isImports
  · obtain ⟨block, isBlock, rfl⟩ := List.mem_map.1 isCode
    have found := Option.mem_toList.1 isBlock
    exact .inr ⟨block, List.mem_of_find?_eq_some found, rfl, by simpa using List.find?_some found⟩

theorem line?_of_mem_piecesBehind {template : Template} {number : Nat} {piece : Piece}
    (among : piece ∈ template.piecesBehind number) : piece.line? = none := by
  rcases mem_piecesBehind among with ⟨rfl, -⟩ | ⟨block, -, rfl, -⟩ <;> rfl

/-- A piece of a line is the line, or it is put in behind it. -/
theorem mem_piecesBehind_of_mem {template : Template} {line : Text × Nat} {piece : Piece}
    (among : piece ∈ template.piecesOfLine line) (inserted : piece.line? = none) :
    piece ∈ template.piecesBehind line.2 := by
  rw [piecesOfLine] at among
  split at among
  · exact nomatch among
  · rcases List.mem_cons.1 among with rfl | behind
    · exact nomatch inserted
    · exact behind

/-- Behind a line the texts of these pieces are put in. -/
theorem insertions_eq (template : Template) {number : Nat} (positive : 1 ≤ number) :
    template.insertions number = (template.piecesBehind number).map template.pieceText := by
  rw [insertions, piecesBehind, List.map_append]
  congr 1
  · by_cases imported : number = template.module.importLine ∧ template.imports ≠ []
    · have notFirst : template.module.importLine ≠ 0 := by omega
      simp [isEmpty_flatten_imports, imported, pieceText, notFirst]
    · rw [if_neg imported, if_neg (by simpa [isEmpty_flatten_imports] using imported)]
      rfl
  · cases template.blockAt? number <;> rfl

/-- The pieces of a line make up what the line comes out as. -/
theorem assemble_piecesOfLine (template : Template) (line : Text) {number : Nat} (positive : 1 ≤ number) :
    template.assemble (template.piecesOfLine (line, number)) = template.spliceLine line number := by
  rw [piecesOfLine, spliceLine]
  by_cases marked : template.IsInMarker number
  · rw [if_pos marked, if_pos ((template.isMarkerLine_iff_isInMarker number).2 marked)]
    rfl
  · rw [if_neg marked, if_neg (mt (template.isMarkerLine_iff_isInMarker number).1 marked),
      insertions_eq template positive, assemble,
      assemble_of_inserted template fun _ => line?_of_mem_piecesBehind]
    cases inserted : template.piecesBehind number with
    | nil => simp [pieceText, lineEndBetween]
    | cons first rest =>
      have isInserted := line?_of_mem_piecesBehind (inserted ▸ List.mem_cons_self : first ∈ _)
      cases first with
      | line => cases isInserted
      | imports | code => rfl

/-- What becomes of lines does not start with something that is put in. -/
theorem lineEndBetween_flatMap (template : Template) (lines : List (Text × Nat)) (piece : Piece) :
    lineEndBetween piece (lines.flatMap template.piecesOfLine) = [] := by
  induction lines with
  | nil => cases piece <;> rfl
  | cons first rest inductionHypothesis =>
    rw [List.flatMap_cons, piecesOfLine]
    split
    · exact inductionHypothesis
    · cases piece <;> rfl

theorem assemble_flatMap (template : Template) (lines : List Text) {start : Nat} (positive : 1 ≤ start) :
    template.assemble ((lines.zipIdx start).flatMap template.piecesOfLine) =
      (lines.zipIdx start).flatMap fun (line, number) => template.spliceLine line number := by
  induction lines generalizing start with
  | nil => rfl
  | cons line rest inductionHypothesis =>
    rw [List.zipIdx_cons, List.flatMap_cons, List.flatMap_cons,
      assemble_append _ _ _ (template.lineEndBetween_flatMap _), assemble_piecesOfLine _ _ positive,
      inductionHypothesis (Nat.le_succ_of_le positive)]

/-- The generated module is what its pieces make up. -/
theorem splice_eq_assemble (template : Template) : template.splice = template.assemble template.pieces := by
  rw [splice, pieces, assemble_append _ _ _ (template.lineEndBetween_flatMap _),
    template.assemble_flatMap _ (Nat.le_refl 1)]
  congr 1
  rw [opening, piecesBefore]
  by_cases imported : template.module.importLine = 0 ∧ template.imports ≠ []
  · simp [isEmpty_flatten_imports, imported, assemble, pieceText, lineEndBetween]
  · rw [if_neg imported, if_neg (by simpa [isEmpty_flatten_imports] using imported)]
    rfl

/-! ### Which pieces there are -/

/-- The numbers of lines rise. -/
theorem pairwise_zipIdx (lines : List Text) :
    (lines.zipIdx 1).Pairwise fun first second => first.2 < second.2 := by
  have rising := List.pairwise_lt_range' 1 (s := 1) (n := lines.length)
  rwa [← List.zipIdx_map_snd, List.pairwise_map] at rising

/-- A line stands behind those with smaller numbers and before those with larger ones. -/
theorem exists_zipIdx_eq_append {lines : List Text} {line : Text} {number : Nat}
    (isLine : (line, number) ∈ lines.zipIdx 1) :
    ∃ front behind, lines.zipIdx 1 = front ++ (line, number) :: behind ∧
      (∀ other ∈ front, other.2 < number) ∧ ∀ other ∈ behind, number < other.2 := by
  obtain ⟨front, behind, cut⟩ := List.append_of_mem isLine
  have rising := pairwise_zipIdx lines
  rw [cut, List.pairwise_append, List.pairwise_cons] at rising
  obtain ⟨-, ⟨later, -⟩, earlier⟩ := rising
  exact ⟨front, behind, cut, fun other among => earlier other among _ List.mem_cons_self, later⟩

/-- A line with a number that the template has. -/
theorem exists_mem_zipIdx (lines : List Text) {number : Nat} (positive : 1 ≤ number)
    (inside : number ≤ lines.length) : ∃ line, (line, number) ∈ lines.zipIdx 1 := by
  refine ⟨lines[number - 1], List.mk_mem_zipIdx_iff_le_and_getElem?_sub.2 ⟨positive, ?_⟩⟩
  exact List.getElem?_eq_getElem (by omega)

/-- The lines are those in no marker. -/
theorem filterMap_line?_pieces (template : Template) :
    template.pieces.filterMap Piece.line? =
      (template.text.displayLines.zipIdx 1).filter fun line => ¬template.IsInMarker line.2 := by
  have before : template.piecesBefore.filterMap Piece.line? = [] := by
    rw [piecesBefore]
    split <;> rfl
  have own (line : Text × Nat) : (template.piecesOfLine line).filterMap Piece.line? =
      if template.IsInMarker line.2 then [] else [line] := by
    rw [piecesOfLine]
    split
    · rfl
    · rw [List.filterMap_cons, List.filterMap_eq_nil_iff.2 fun _ => line?_of_mem_piecesBehind]
      rfl
  rw [pieces, List.filterMap_append, before, List.nil_append]
  generalize template.text.displayLines.zipIdx 1 = lines
  induction lines with
  | nil => rfl
  | cons line rest inductionHypothesis =>
    rw [List.flatMap_cons, List.filterMap_append, inductionHypothesis, own]
    by_cases marked : template.IsInMarker line.2 <;> simp [marked]

/-- The blocks are those that end on lines that are kept. -/
theorem filterMap_block?_pieces (template : Template) :
    template.pieces.filterMap Piece.block? = (template.text.displayLines.zipIdx 1).flatMap fun line =>
      if template.IsInMarker line.2 then [] else (template.blockAt? line.2).toList := by
  have before : template.piecesBefore.filterMap Piece.block? = [] := by
    rw [piecesBefore]
    split <;> rfl
  rw [pieces, List.filterMap_append, before, List.nil_append, List.filterMap_flatMap]
  congr 1
  funext line
  rw [piecesOfLine]
  split
  · rfl
  · have noImports : List.filterMap Piece.block?
        (if line.2 = template.module.importLine ∧ template.imports ≠ [] then [.imports] else []) = [] := by
      split <;> rfl
    rw [List.filterMap_cons, piecesBehind, List.filterMap_append, noImports, List.filterMap_map]
    exact List.filterMap_some

theorem blockAt?_eq_some_iff {template : Template} (apart : (template.blocks.map Block.stop).Nodup) {number : Nat}
    {block : Block} : template.blockAt? number = some block ↔ block ∈ template.blocks ∧ block.stop = number := by
  constructor
  · intro found
    exact ⟨List.mem_of_find?_eq_some found, by simpa using List.find?_some found⟩
  · rintro ⟨among, stop⟩
    obtain ⟨other, found⟩ : ∃ other, template.blockAt? number = some other :=
      Option.isSome_iff_exists.1 (List.find?_isSome.2 ⟨block, among, by simp [stop]⟩)
    have there : other.stop = number := by simpa using List.find?_some found
    rw [found, List.inj_on_of_nodup_map apart (List.mem_of_find?_eq_some found) among (there.trans stop.symm)]

namespace IsPlaced

variable {template : Template} (placed : template.IsPlaced)

include placed

/-- A block ends on a line with a number, which is below the import line and is kept. -/
theorem exists_line {block : Block} (among : block ∈ template.blocks) :
    ∃ line number, (line, number) ∈ template.text.displayLines.zipIdx 1 ∧ block.stop = number ∧
      template.module.importLine < number ∧ ¬template.IsInMarker number ∧
      template.blockAt? number = some block := by
  obtain ⟨above, below, unmarked⟩ := placed.stops block among
  obtain ⟨number, stop⟩ : ∃ number : Nat, block.stop = number := ⟨block.stop.toNat, by omega⟩
  rw [stop] at above below unmarked
  have inside : number ≤ template.text.displayLines.length := by omega
  obtain ⟨line, isLine⟩ := exists_mem_zipIdx _ (by omega) inside
  exact ⟨line, number, isLine, stop, by omega, unmarked, (blockAt?_eq_some_iff placed.apart).2 ⟨among, stop⟩⟩

/-- Every block has its code once. -/
theorem perm_blocks : (template.pieces.filterMap Piece.block?).Perm template.blocks := by
  rw [filterMap_block?_pieces, List.perm_ext_iff_of_nodup ?_ (List.Nodup.of_map _ placed.apart)]
  · intro block
    rw [List.mem_flatMap]
    constructor
    · rintro ⟨line, -, found⟩
      split at found
      · exact nomatch found
      · exact List.mem_of_find?_eq_some (Option.mem_toList.1 found)
    · intro among
      obtain ⟨line, number, isLine, -, -, unmarked, found⟩ := placed.exists_line among
      refine ⟨_, isLine, ?_⟩
      rw [if_neg unmarked, found]
      exact List.mem_singleton_self block
  · rw [List.nodup_flatMap]
    constructor
    · intro line _
      split
      · exact List.nodup_nil
      · cases template.blockAt? line.2 <;> simp
    · refine (pairwise_zipIdx _).imp fun {first second} above block inFirst inSecond => ?_
      dsimp only at inFirst inSecond
      split at inFirst
      · exact nomatch inFirst
      · split at inSecond
        · exact nomatch inSecond
        · have here := (blockAt?_eq_some_iff placed.apart).1 (Option.mem_toList.1 inFirst)
          have there := (blockAt?_eq_some_iff placed.apart).1 (Option.mem_toList.1 inSecond)
          omega

/-- The code of a block stands directly behind the line on which the block ends. -/
theorem exists_code {block : Block} (among : block ∈ template.blocks) :
    ∃ (front : List Piece) (line : Text) (number : Nat) (behind : List Piece),
      template.pieces = front ++ .line line number :: .code block :: behind ∧ number = block.stop := by
  obtain ⟨line, number, isLine, stop, above, unmarked, found⟩ := placed.exists_line among
  obtain ⟨front, behind, cut, -⟩ := exists_zipIdx_eq_append isLine
  have own : template.piecesOfLine (line, number) = [.line line number, .code block] := by
    rw [piecesOfLine, if_neg unmarked, piecesBehind, found, if_neg fun imported => above.ne' imported.1]
    rfl
  refine ⟨template.piecesBefore ++ front.flatMap template.piecesOfLine, line, number,
    behind.flatMap template.piecesOfLine, ?_, stop.symm⟩
  rw [pieces, cut, List.flatMap_append, List.flatMap_cons, own, List.append_assoc]
  rfl

end IsPlaced

/-- Imports come behind the import line only. -/
theorem number_of_imports_mem {template : Template} {line : Text × Nat}
    (among : Piece.imports ∈ template.piecesOfLine line) :
    line.2 = template.module.importLine ∧ template.imports ≠ [] := by
  rcases mem_piecesBehind (mem_piecesBehind_of_mem among rfl) with ⟨-, imported⟩ | ⟨block, -, same, -⟩
  · exact imported
  · exact nomatch same

/-- Code comes behind the line on which its block ends. -/
theorem number_of_code_mem {template : Template} {line : Text × Nat} {block : Block}
    (among : Piece.code block ∈ template.piecesOfLine line) : block ∈ template.blocks ∧ block.stop = line.2 := by
  rcases mem_piecesBehind (mem_piecesBehind_of_mem among rfl) with ⟨same, -⟩ | ⟨own, isBlock, same, stop⟩
  · exact nomatch same
  · cases same
    exact ⟨isBlock, stop⟩

theorem imports_not_mem_pieces {template : Template} (notNeeded : template.imports = []) :
    Piece.imports ∉ template.pieces := by
  intro among
  rcases List.mem_append.1 among with before | behind
  · rw [piecesBefore, if_neg fun imported => imported.2 notNeeded] at before
    exact nomatch before
  · obtain ⟨line, -, own⟩ := List.mem_flatMap.1 behind
    exact (number_of_imports_mem own).2 notNeeded

/-- Lines with other numbers have no imports among their pieces. -/
theorem imports_not_mem_flatMap {template : Template} {lines : List (Text × Nat)}
    (apart : ∀ line ∈ lines, line.2 ≠ template.module.importLine) :
    Piece.imports ∉ lines.flatMap template.piecesOfLine := by
  intro among
  obtain ⟨line, isLine, own⟩ := List.mem_flatMap.1 among
  exact apart line isLine (number_of_imports_mem own).1

/-- Imports that are needed come once, before all code. -/
theorem IsPlaced.exists_imports {template : Template} (placed : template.IsPlaced)
    (needed : template.imports ≠ []) :
    ∃ front behind : List Piece, template.pieces = front ++ .imports :: behind ∧
      Piece.imports ∉ front ∧ Piece.imports ∉ behind ∧ (∀ block, Piece.code block ∉ front) ∧
      (template.module.importLine = 0 ∧ front = [] ∨
        ∃ others line, front = others ++ [.line line template.module.importLine]) := by
  by_cases first : template.module.importLine = 0
  · refine ⟨[], (template.text.displayLines.zipIdx 1).flatMap template.piecesOfLine, ?_, List.not_mem_nil,
      imports_not_mem_flatMap fun line isLine => ?_, fun _ => List.not_mem_nil, .inl ⟨first, rfl⟩⟩
    · rw [pieces, piecesBefore, if_pos ⟨first, needed⟩]
      rfl
    · have positive := List.le_snd_of_mem_zipIdx isLine
      omega
  · obtain ⟨line, isLine⟩ := exists_mem_zipIdx _ (Nat.one_le_iff_ne_zero.2 first) placed.importLine_le
    obtain ⟨front, behind, cut, earlier, later⟩ := exists_zipIdx_eq_append isLine
    have unblocked : template.blockAt? template.module.importLine = none := by
      rw [Option.eq_none_iff_forall_ne_some]
      intro block found
      obtain ⟨among, stop⟩ := (blockAt?_eq_some_iff placed.apart).1 found
      have above := (placed.stops block among).1
      omega
    have own : template.piecesOfLine (line, template.module.importLine) =
        [.line line template.module.importLine, .imports] := by
      rw [piecesOfLine, if_neg placed.importLine_not_inMarker, piecesBehind, unblocked, if_pos ⟨rfl, needed⟩]
      rfl
    refine ⟨front.flatMap template.piecesOfLine ++ [.line line template.module.importLine],
      behind.flatMap template.piecesOfLine, ?_, ?_, imports_not_mem_flatMap fun other among => (later other among).ne',
      ?_, .inr ⟨_, _, rfl⟩⟩
    · rw [pieces, piecesBefore, if_neg fun imported => first imported.1, cut, List.flatMap_append,
        List.flatMap_cons, own, List.nil_append, List.append_assoc]
      rfl
    · rw [List.mem_append, List.mem_singleton]
      rintro (among | same)
      · exact imports_not_mem_flatMap (fun other among => (earlier other among).ne) among
      · exact nomatch same
    · intro block
      rw [List.mem_append, List.mem_singleton]
      rintro (among | same)
      · obtain ⟨other, isOther, own⟩ := List.mem_flatMap.1 among
        obtain ⟨isBlock, stop⟩ := number_of_code_mem own
        have above := (placed.stops block isBlock).1
        have below := earlier other isOther
        omega
      · exact nomatch same

/-- For any text, any statements and any blocks that end on lines of their own, below the import line and in no
marker: the generated module is made up of the right pieces, which are the lines in no marker as they are and
in order, the code of each block once and directly behind its last line, and the imports, if there are any,
once and before all code. A line that something is put in behind gets the line feed that it lacks. -/
theorem exists_assembly {template : Template} (placed : template.IsPlaced) :
    ∃ pieces, template.IsAssembly pieces ∧ template.splice = template.assemble pieces :=
  ⟨template.pieces, ⟨template.filterMap_line?_pieces, placed.perm_blocks, fun _ => placed.exists_code,
    imports_not_mem_pieces, placed.exists_imports⟩, template.splice_eq_assemble⟩

/-! ### Accepted templates -/

/-- Markers are below line zero. -/
theorem isMarkerLine_zero {text : Text} {template : Template} (accepted : read text = .ok template) :
    template.isMarkerLine 0 = false := by
  rw [Bool.eq_false_iff, ne_eq, isMarkerLine_iff_isOfMarker accepted]
  rintro ⟨definition, isTop, marker, isDecorator, isMarker, first, -⟩
  obtain ⟨-, parsed⟩ := ofText_of_read accepted
  have own := ((Module.areBelow_markedTop parsed).of_mem isTop).2 marker isDecorator
  have below := own.1.resolve_left (start_ne_default accepted isTop isDecorator isMarker)
  omega

/-- Blocks end where their classes do. -/
theorem map_stop_blocks {text : Text} {template : Template} (accepted : read text = .ok template) :
    template.blocks.map Block.stop =
      template.module.markedTop.map fun definition => (definition.span.stop.line : Int) := by
  have made := forall₂_markedTop accepted
  generalize template.module.markedTop = classes at made
  generalize template.blocks = blocks at made
  induction made with
  | nil => rfl
  | cons here later inductionHypothesis =>
    rw [List.map_cons, List.map_cons, inductionHypothesis, (lines_of_ofClass here).1]

/-- The blocks of an accepted template are placed, if its lines are numbered alike down to the last edit. -/
theorem isPlaced_of_read {text : Text} {template : Template} (accepted : read text = .ok template)
    (alike : text.NumbersAlike template.module.lastEdit) : template.IsPlaced := by
  obtain ⟨isText, parsed⟩ := ofText_of_read accepted
  have leaves := leavesUpTo_importLine accepted
  have inside {number : Nat} (edited : number ≤ template.module.lastEdit)
      (there : number ≤ text.sourceLines.length) : number ≤ text.displayLines.length := by
    have same := congrArg List.length alike
    rw [List.length_take, List.length_take] at same
    omega
  constructor
  case stops =>
    intro block among
    obtain ⟨definition, isTop, stop⟩ : ∃ definition ∈ template.module.markedTop,
        (definition.span.stop.line : Int) = block.stop :=
      List.mem_map.1 (map_stop_blocks accepted ▸ List.mem_map_of_mem among)
    rw [← stop, isText, ← isMarkerLine_iff_isInMarker, isMarkerLine_stop accepted isTop]
    have last := inside (Module.stop_le_lastEdit isTop) (Module.stop_line_le_of_markedTop parsed isTop)
    refine ⟨?_, by omega, Bool.false_ne_true⟩
    by_contra above
    have positive := ((Module.areBelow_markedTop parsed).of_mem isTop).1
    have unblocked := (leaves definition.span.stop.line positive (by omega)).2
    exact absurd (beq_iff_eq.2 stop.symm) (List.find?_eq_none.1 unblocked block among)
  case apart =>
    rw [map_stop_blocks accepted]
    exact List.pairwise_map.2 ((Module.areBelow_markedTop parsed).pairwise.imp fun above => by omega)
  case importLine_le =>
    rw [isText]
    exact inside template.module.importLine_le_lastEdit (Module.importLine_le parsed)
  case importLine_not_inMarker =>
    rw [← isMarkerLine_iff_isInMarker, Bool.not_eq_true]
    rcases Nat.eq_zero_or_pos template.module.importLine with first | positive
    · rw [first]
      exact isMarkerLine_zero accepted
    · exact (leaves _ positive (Nat.le_refl _)).1

/-- A text with a docstring and two marked classes, the one below a marker of three lines and the other on a last
line without an end. -/
def twoClassesTemplate : Text :=
  "\"\"\"d\"\"\"\n@diff(\n  name(Q)\n)\nclass P: pass\n@diff\nclass R:\n  x: int"

/-- Both of its blocks are placed, and it comes out with both imports. -/
theorem exists_assembly_of_twoClassesTemplate :
    ∃ template, read twoClassesTemplate = .ok template ∧ template.IsPlaced ∧
      template.blocks.map Block.stop = [5, 8] ∧ template.module.importLine = 1 ∧ template.imports.length = 2 ∧
      ∃ pieces, template.IsAssembly pieces ∧ template.splice = template.assemble pieces := by
  obtain ⟨template, accepted, known⟩ := exists_of_read
    (show (read twoClassesTemplate).toOption.map (fun template => decide (template.IsPlaced ∧
      template.blocks.map Block.stop = [5, 8] ∧ template.module.importLine = 1 ∧ template.imports.length = 2)) =
        some true by decide +kernel)
  obtain ⟨placed, stops, importLine, imports⟩ := of_decide_eq_true known
  exact ⟨template, accepted, placed, stops, importLine, imports, exists_assembly placed⟩

end Template

end DifferenceTypes
