import DifferenceTypes.Proofs.Generation.Front
import DifferenceTypes.Proofs.Template.Passages
import Mathlib.Data.List.Perm.Basic

/-!
# Templates in another order

A template that is made up of passages is a row of templates, one for each passage. What the generator makes
of it is made up in the same way: below the first passage every passage comes out as it does by itself
(`Template.IsRow.splice_eq`), and only the imports depend on all of them. So passages can be put in another
order: if the template is accepted in one order, it is in every other one, and comes out with the same pieces
in that order (`Template.exists_read_of_perm`).
-/

namespace DifferenceTypes

/-! ### Statements wherever they stand -/

section

variable {σ : Type} (first second : σ → Span)

theorem Expr.name?_map_eq (expression : Expr σ) :
    Expr.name? (expression.map first) = Expr.name? (expression.map second) := by
  cases expression <;> rfl

namespace Stmt

variable (statement : Stmt σ)

theorem boundNames_map_eq : (statement.map first).boundNames = (statement.map second).boundNames := by
  cases statement with
  | assign _ targets _ =>
    simp only [map, boundNames, Expr.mapAll_eq_map, List.filterMap_map]
    congr 1
    exact funext (Expr.name?_map_eq first second)
  | declare _ target => exact congrArg Option.toList (target.name?_map_eq first second)
  | _ => rfl

theorem importsModule_map_eq (path : String) (boundAs : Option String) :
    (statement.map first).importsModule path boundAs = (statement.map second).importsModule path boundAs := by
  cases statement <;> rfl

theorem isText_map_eq : (statement.map first).isText = (statement.map second).isText := by
  cases statement with
  | expression _ value =>
    cases value with
    | constant _ constant => cases constant <;> rfl
    | _ => rfl
  | _ => rfl

theorem isFuture_map_eq : (statement.map first).isFuture = (statement.map second).isFuture := by
  cases statement with
  | importsFrom _ _ path => cases path <;> rfl
  | _ => rfl

end Stmt

namespace Module

variable (statements : List (Stmt σ))

theorem boundNames_mapAll_eq :
    boundNames (Stmt.mapAll first statements) = boundNames (Stmt.mapAll second statements) := by
  rw [Stmt.mapAll_eq_map, Stmt.mapAll_eq_map, boundNames, boundNames, List.flatMap_map, List.flatMap_map]
  congr 1
  exact funext (Stmt.boundNames_map_eq first second)

theorem opening_eq_nil_iff {module : Module} :
    module.opening = [] ↔ ∀ statement, module.head? = some statement →
      (statement.isText || statement.isFuture) = false := by
  cases module with
  | nil => simp [opening]
  | cons statement rest =>
    simp only [opening, List.head?_cons, Option.some.injEq, forall_eq']
    cases statement.isText || statement.isFuture <;> simp

theorem opening_mapAll_eq_nil (none : opening (Stmt.mapAll first statements) = []) :
    opening (Stmt.mapAll second statements) = [] := by
  rw [opening_eq_nil_iff] at none ⊢
  cases statements with
  | nil => exact nofun
  | cons statement rest =>
    intro found isFirst
    cases isFirst
    rw [Stmt.isText_map_eq second first, Stmt.isFuture_map_eq second first]
    exact none _ rfl

end Module

end

/-- Statements that do not have to come first change nothing about those that have to. -/
theorem Module.opening_append {front behind : Module} (none : behind.opening = []) :
    opening (front ++ behind) = front.opening := by
  cases front with
  | nil => exact none
  | cons statement rest =>
    have stops : behind.takeWhile Stmt.isFuture = [] := by
      cases behind with
      | nil => rfl
      | cons next others =>
        have plain := opening_eq_nil_iff.1 none next rfl
        exact List.takeWhile_cons_of_neg (by simp [(Bool.or_eq_false_iff.1 plain).2])
    rw [List.cons_append, opening, opening, List.takeWhile_append, stops, List.append_nil]
    split
    · split
      · next whole => rw [(List.takeWhile_prefix _).eq_of_length whole]
      · rfl
    · rfl

namespace Template

/-! ### Rows of templates -/

/-- A template has whole lines, the same for display as in syntax, and its blocks are about these. -/
structure IsSelfContained (template : Template) : Prop where
  ended : template.text.EndsLine
  alike : template.text.displayLines = template.text.sourceLines
  importLine : template.module.importLine ≤ template.text.sourceLines.length
  stops : ∀ block ∈ template.blocks, 1 ≤ block.stop ∧ block.stop ≤ template.text.sourceLines.length
  markers : ∀ block ∈ template.blocks, ∀ lines ∈ block.markerLines,
    1 ≤ lines.1 ∧ lines.2 ≤ template.text.sourceLines.length

theorem IsReadFrom.isSelfContained {passage : Text} (isPassage : passage.IsPassage) {template : Template}
    (isRead : template.IsReadFrom passage) : template.IsSelfContained := by
  obtain ⟨rfl, parsed, -, made⟩ := isRead
  have areBelow := Module.areBelow_markedTop parsed
  have class? {block : Block} (isBlock : block ∈ template.blocks) : ∃ definition ∈ template.module.markedTop,
      Block.ofClass template.text template.text.displayLines definition = .ok block := by
    obtain ⟨number, inside, rfl⟩ := List.mem_iff_getElem.1 isBlock
    have insideToo := made.length_eq ▸ inside
    exact ⟨_, List.getElem_mem insideToo, made.get insideToo inside⟩
  refine ⟨isPassage.ended, isPassage.alike, ?_, fun block isBlock => ?_, fun block isBlock lines isLines => ?_⟩
  · unfold Module.importLine
    cases isLast : template.module.opening.getLast? with
    | none => exact Nat.zero_le _
    | some statement =>
      exact Module.stop_line_le parsed ((Module.opening_isPrefix _).mem (List.mem_of_getLast? isLast))
  · obtain ⟨definition, isTop, isMade⟩ := class? isBlock
    have above := (areBelow.of_mem isTop).1
    have below := Module.stop_line_le_of_markedTop parsed isTop
    rw [(lines_of_ofClass isMade).1]
    omega
  · obtain ⟨definition, isTop, isMade⟩ := class? isBlock
    obtain ⟨marker, among, isFound⟩ := exists_of_mem_mapM (lines_of_ofClass isMade).2 isLines
    obtain ⟨isDecorator, -⟩ := List.mem_filter.1 among
    have tokens := (Module.hasTokens_of_decorator parsed (List.mem_filter.1 isTop).1 marker isDecorator).1
    obtain ⟨start, -, stop⟩ := (areBelow.of_mem isTop).2 marker isDecorator
    have first := start.resolve_left tokens.start
    have below := Module.stop_line_le_of_markedTop parsed isTop
    cases Marker.eq_of_lines isFound
    simp only [Marker.Place.ofSpan]
    omega

/-- A template is put together from a row of templates. -/
inductive IsRow : Template → List Template → Prop
  | nil : IsRow ⟨[], [], []⟩ []
  | cons {template first behind : Template} {rest : List Template} (stacked : template.IsStacked first behind)
      (contained : first.IsSelfContained) (containedBehind : behind.IsSelfContained) (row : IsRow behind rest) :
      IsRow template (first :: rest)

section

variable {passages : List Text} (arePassages : ∀ passage ∈ passages, passage.IsPassage)

include arePassages

/-- What passages say together is put together from what they say by themselves. -/
theorem exists_row {template : Template} (isRead : template.IsReadFrom passages.flatten) :
    ∃ parts, List.Forall₂ (fun passage part => part.IsReadFrom passage) passages parts ∧ template.IsRow parts := by
  induction passages generalizing template with
  | nil =>
    obtain ⟨text, module, blocks⟩ := template
    obtain ⟨rfl, parsed, -, made⟩ := isRead
    cases parsed
    cases made
    exact ⟨[], .nil, .nil⟩
  | cons passage rest inductionHypothesis =>
    have isFirst := arePassages passage List.mem_cons_self
    have areBehind := fun other among => arePassages other (List.mem_cons_of_mem _ among)
    have isBehind := Text.IsPassage.flatten areBehind
    obtain ⟨first, behind, readFirst, readBehind, stacked⟩ := exists_of_isReadFrom_append isFirst isBehind isRead
    obtain ⟨parts, each, row⟩ := inductionHypothesis areBehind readBehind
    exact ⟨first :: parts, .cons readFirst each,
      .cons stacked (readFirst.isSelfContained isFirst) (readBehind.isSelfContained isBehind) row⟩

/-- What passages say by themselves they say together. -/
theorem exists_isReadFrom_of_forall₂ {parts : List Template}
    (each : List.Forall₂ (fun passage part => part.IsReadFrom passage) passages parts) :
    ∃ template : Template, template.IsReadFrom passages.flatten ∧ template.IsRow parts := by
  induction each with
  | nil => exact ⟨⟨[], [], []⟩, ⟨rfl, rfl, nofun, .nil⟩, .nil⟩
  | @cons passage first rest parts readFirst _ inductionHypothesis =>
    have isFirst := arePassages passage List.mem_cons_self
    have areBehind := fun other among => arePassages other (List.mem_cons_of_mem _ among)
    have isBehind := Text.IsPassage.flatten areBehind
    obtain ⟨behind, readBehind, row⟩ := inductionHypothesis areBehind
    obtain ⟨template, isRead, stacked⟩ := exists_isReadFrom_append isFirst isBehind readFirst readBehind
    exact ⟨template, isRead,
      .cons stacked (readFirst.isSelfContained isFirst) (readBehind.isSelfContained isBehind) row⟩

end

/-! ### What a row has -/

/-- What the parts of a template have one after the other the whole has. -/
theorem IsRow.eq_flatMap {α : Type} (what : Template → List α) (none : what ⟨[], [], []⟩ = [])
    (both : ∀ {template first behind : Template}, template.IsStacked first behind → first.IsSelfContained →
      behind.IsSelfContained → what template = what first ++ what behind)
    {template : Template} {parts : List Template} (row : template.IsRow parts) :
    what template = parts.flatMap what := by
  induction row with
  | nil => exact none
  | cons stacked contained containedBehind _ inductionHypothesis =>
    rw [both stacked contained containedBehind, inductionHypothesis, List.flatMap_cons]

/-- The names that the code generated for a template binds. -/
def generatedNames (template : Template) : List Text :=
  template.blocks.flatMap Block.generatedNames

/-- Which of a template's statements import a module under a name. -/
def importsOf (path : String) (boundAs : Option String) (template : Template) : List Bool :=
  template.module.map (Stmt.importsModule path boundAs)

namespace IsRow

variable {template : Template} {parts : List Template} (row : template.IsRow parts)

include row

theorem generatedNames_eq : template.generatedNames = parts.flatMap generatedNames := by
  refine row.eq_flatMap generatedNames rfl fun {template first behind} stacked _ _ => ?_
  rw [generatedNames, stacked.blocks, List.flatMap_append, List.flatMap_map]
  rfl

theorem shapes_eq : template.blocks.map Block.shape = parts.flatMap fun part => part.blocks.map Block.shape := by
  refine row.eq_flatMap (fun part => part.blocks.map Block.shape) rfl
    fun {template first behind} stacked _ _ => ?_
  rw [stacked.blocks, List.map_append, List.map_map]
  rfl

theorem boundNames_eq : template.module.boundNames = parts.flatMap fun part => part.module.boundNames := by
  refine row.eq_flatMap (fun part => part.module.boundNames) rfl
    fun {template first behind} stacked _ _ => ?_
  obtain ⟨pairs, below, whole⟩ := stacked.module
  rw [whole, below, Module.boundNames_mapAll_eq Span.Relocation.here Span.Relocation.there]
  exact List.flatMap_append

theorem importsOf_eq (path : String) (boundAs : Option String) :
    template.importsOf path boundAs = parts.flatMap (importsOf path boundAs) := by
  refine row.eq_flatMap (importsOf path boundAs) rfl fun {template first behind} stacked _ _ => ?_
  obtain ⟨pairs, below, whole⟩ := stacked.module
  rw [importsOf, importsOf, importsOf, whole, below, List.map_append, Stmt.mapAll_eq_map, Stmt.mapAll_eq_map,
    List.map_map, List.map_map]
  congr 1
  exact List.map_congr_left fun statement _ => statement.importsModule_map_eq _ _ path boundAs

theorem hasFreshNames_iff : template.HasFreshNames ↔ (parts.flatMap generatedNames).Nodup ∧
    ∀ name ∈ parts.flatMap generatedNames,
      name ∉ (parts.flatMap fun part => part.module.boundNames).map Text.ofString := by
  rw [← row.generatedNames_eq, ← row.boundNames_eq]
  exact ⟨fun fresh => ⟨fresh.different, fresh.free⟩, fun ⟨different, free⟩ => ⟨different, free⟩⟩

/-- The names of a part are fresh if those of the whole are. -/
theorem hasFreshNames_part (fresh : template.HasFreshNames) {part : Template} (isPart : part ∈ parts) :
    part.HasFreshNames := by
  obtain ⟨different, free⟩ := row.hasFreshNames_iff.1 fresh
  have among {name : Text} (own : name ∈ part.generatedNames) : name ∈ parts.flatMap generatedNames :=
    List.mem_flatMap.2 ⟨part, isPart, own⟩
  refine ⟨(List.nodup_flatMap.1 different).1 part isPart, fun name own bound => free name (among own) ?_⟩
  obtain ⟨identifier, isBound, rfl⟩ := List.mem_map.1 bound
  exact List.mem_map_of_mem (List.mem_flatMap.2 ⟨part, isPart, isBound⟩)

/-- What has no statements that have to come first in any part has none. -/
theorem opening_eq_nil (none : ∀ part ∈ parts, part.module.opening = []) : template.module.opening = [] := by
  induction row with
  | nil => rfl
  | cons stacked _ _ _ inductionHypothesis =>
    obtain ⟨pairs, below, whole⟩ := stacked.module
    have later := inductionHypothesis fun part among => none part (List.mem_cons_of_mem _ among)
    rw [below] at later
    rw [whole, Module.opening_append (Module.opening_mapAll_eq_nil _ _ _ later)]
    exact none _ List.mem_cons_self

end IsRow

section

variable {template other : Template} {parts others : List Template} (row : template.IsRow parts)
  (rowOther : other.IsRow others) (perm : parts.Perm others)

include row rowOther perm

theorem HasFreshNames.of_perm (fresh : template.HasFreshNames) : other.HasFreshNames := by
  obtain ⟨different, free⟩ := row.hasFreshNames_iff.1 fresh
  have names := perm.flatMap_right generatedNames
  have bound := (perm.flatMap_right fun part => part.module.boundNames).map Text.ofString
  exact rowOther.hasFreshNames_iff.2 ⟨names.nodup_iff.1 different, fun name among known =>
    free name (names.mem_iff.2 among) (bound.mem_iff.2 known)⟩

/-- Which imports are put in does not depend on the order of the parts. -/
theorem imports_eq_of_perm : template.imports = other.imports := by
  have shapes := perm.flatMap_right fun part => part.blocks.map Block.shape
  rw [← row.shapes_eq, ← rowOther.shapes_eq] at shapes
  have empty : template.blocks.isEmpty = other.blocks.isEmpty := by
    rw [Bool.eq_iff_iff, List.isEmpty_iff_length_eq_zero, List.isEmpty_iff_length_eq_zero]
    simpa using congrArg (· = 0) shapes.length_eq
  have named : template.blocks.any (·.shape == .named) = other.blocks.any (·.shape == .named) := by
    have same := shapes.any_eq (f := (· == .named))
    rwa [List.any_map, List.any_map] at same
  have imports (path : String) (boundAs : Option String) :
      template.module.importsModule path boundAs = other.module.importsModule path boundAs := by
    have which := perm.flatMap_right (importsOf path boundAs)
    rw [← row.importsOf_eq, ← rowOther.importsOf_eq] at which
    have same := which.any_eq (f := id)
    rwa [importsOf, importsOf, List.any_map, List.any_map] at same
  unfold Template.imports
  rw [empty, named, imports, imports]

end

/-! ### What comes out of a row -/

/-- A line of the template as it comes out where no imports are put in. -/
def weaveLine (template : Template) (line : Text) (number : Nat) : Text :=
  if template.isMarkerLine number then []
  else
    match template.blockAt? number with
    | some block => line ++ missingLineEnd line ++ ("\n\n" ++ Code.render block ++ "\n")
    | none => line

/-- The lines of a template as they come out where no imports are put in. -/
def weave (template : Template) : Text :=
  (template.text.displayLines.zipIdx 1).flatMap fun (line, number) => template.weaveLine line number

theorem spliceLine_eq_weaveLine {template : Template} {number : Nat} (apart : number ≠ template.module.importLine)
    (line : Text) : template.spliceLine line number = template.weaveLine line number := by
  have noImports : (number == template.module.importLine) = false := by simpa using apart
  unfold spliceLine weaveLine insertions
  cases template.blockAt? number <;> simp [noImports]

namespace IsStacked

variable {template first behind : Template} (stacked : template.IsStacked first behind)

include stacked

theorem displayLines_eq (contained : first.IsSelfContained) :
    template.text.displayLines = first.text.displayLines ++ behind.text.displayLines := by
  rw [stacked.isText]
  exact Text.linesEndingAt_append rfl contained.ended behind.text

section Above

variable (containedBehind : behind.IsSelfContained) {number : Nat} (above : number ≤ first.text.sourceLines.length)

include containedBehind above

theorem isMarkerLine_above : template.isMarkerLine number = first.isMarkerLine number := by
  rw [isMarkerLine, isMarkerLine, stacked.blocks, List.any_append]
  refine (congrArg (Bool.or _) ?_).trans (Bool.or_false _)
  simp only [List.any_map, List.any_eq_false, Function.comp_apply, Block.moveDown]
  intro block isBlock
  simp only [List.any_eq_true, Function.comp_apply, not_exists, not_and]
  intro lines isLines
  have below := (containedBehind.markers block isBlock lines isLines).1
  simp only [Bool.and_eq_true, decide_eq_true_eq]
  omega

theorem blockAt?_above : template.blockAt? number = first.blockAt? number := by
  have none : (behind.blocks.map (Block.moveDown first.text.sourceLines.length)).find?
      (·.stop == (number : Int)) = none := by
    rw [List.find?_eq_none]
    rintro _ isMoved
    obtain ⟨block, isBlock, rfl⟩ := List.mem_map.1 isMoved
    have below := (containedBehind.stops block isBlock).1
    simp only [Block.moveDown, beq_iff_eq]
    omega
  rw [blockAt?, blockAt?, stacked.blocks, List.find?_append, none, Option.or_none]

theorem weaveLine_above (line : Text) : template.weaveLine line number = first.weaveLine line number := by
  unfold weaveLine
  rw [stacked.isMarkerLine_above containedBehind above, stacked.blockAt?_above containedBehind above]

end Above

section Below

variable (contained : first.IsSelfContained) {number : Nat} (below : 1 ≤ number)

include contained below

theorem isMarkerLine_below :
    template.isMarkerLine (number + first.text.sourceLines.length) = behind.isMarkerLine number := by
  rw [isMarkerLine, isMarkerLine, stacked.blocks, List.any_append]
  refine ((congrArg (Bool.or · _) ?_).trans (Bool.false_or _)).trans ?_
  · simp only [List.any_eq_false, List.any_eq_true, not_exists, not_and]
    intro block isBlock lines isLines
    have above := (contained.markers block isBlock lines isLines).2
    simp only [Bool.and_eq_true, decide_eq_true_eq]
    omega
  rw [List.any_map]
  congr 1
  funext block
  simp only [Function.comp_apply, Block.moveDown, List.any_map, Int.natCast_add]
  congr 1
  funext lines
  simp

theorem blockAt?_below : template.blockAt? (number + first.text.sourceLines.length) =
    (behind.blockAt? number).map (Block.moveDown first.text.sourceLines.length) := by
  have none : first.blocks.find? (·.stop == ((number + first.text.sourceLines.length : Nat) : Int)) = none := by
    rw [List.find?_eq_none]
    intro block isBlock
    have above := (contained.stops block isBlock).2
    simp only [beq_iff_eq]
    omega
  rw [blockAt?, blockAt?, stacked.blocks, List.find?_append, none, Option.none_or, List.find?_map]
  congr 2
  funext block
  simp [Block.moveDown]

theorem weaveLine_below (line : Text) :
    template.weaveLine line (number + first.text.sourceLines.length) = behind.weaveLine line number := by
  unfold weaveLine
  rw [stacked.isMarkerLine_below contained below, stacked.blockAt?_below contained below]
  cases behind.blockAt? number <;> rfl

end Below

/-- Below the first of two templates the other one comes out as by itself. -/
theorem flatMap_below (contained : first.IsSelfContained) {comesOut : Text → Nat → Text}
    (alike : ∀ line number, first.text.sourceLines.length < number →
      comesOut line number = template.weaveLine line number) :
    (behind.text.displayLines.zipIdx (1 + first.text.displayLines.length)).flatMap
      (fun (line, number) => comesOut line number) = behind.weave := by
  have moved : behind.text.displayLines.zipIdx (1 + first.text.displayLines.length) =
      (behind.text.displayLines.zipIdx 1).map (Prod.map id (· + first.text.sourceLines.length)) := by
    rw [contained.alike, List.map_snd_add_zipIdx_eq_zipIdx, Nat.add_comm]
  rw [moved, List.flatMap_map, weave]
  refine List.flatMap_congr fun (line, number) among => ?_
  have positive := List.le_snd_of_mem_zipIdx among
  exact (alike line _ (by dsimp only [Prod.map_apply] at positive ⊢; omega)).trans
    (stacked.weaveLine_below contained positive line)

theorem weave_eq (contained : first.IsSelfContained) (containedBehind : behind.IsSelfContained) :
    template.weave = first.weave ++ behind.weave := by
  rw [weave, stacked.displayLines_eq contained, List.zipIdx_append, List.flatMap_append,
    stacked.flatMap_below contained fun _ _ _ => rfl]
  congr 1
  refine List.flatMap_congr fun (line, number) among => ?_
  have inside := List.snd_lt_of_mem_zipIdx among
  rw [contained.alike] at inside
  exact stacked.weaveLine_above containedBehind (by dsimp only at inside; omega) line

theorem importLine_eq (none : behind.module.opening = []) : template.module.importLine = first.module.importLine := by
  obtain ⟨pairs, below, whole⟩ := stacked.module
  rw [below] at none
  rw [Module.importLine, whole, Module.opening_append (Module.opening_mapAll_eq_nil _ _ _ none), Module.importLine]

/-- The generated module is the front, with the imports, and what comes out of the rest by itself. -/
theorem splice_eq (contained : first.IsSelfContained) (none : behind.module.opening = []) :
    template.splice = template.spliceFront first.text.displayLines.length ++ behind.weave := by
  have lines := stacked.displayLines_eq contained
  have early := contained.importLine
  rw [← stacked.importLine_eq none] at early
  rw [splice, spliceFront, lines, List.take_left, List.zipIdx_append, List.flatMap_append, List.append_assoc,
    stacked.flatMap_below contained fun line number above => spliceLine_eq_weaveLine (by omega) line]

/-- The front comes out in the same way if the same imports are put in, whatever stands behind it. -/
theorem spliceFront_eq {other second : Template} (stackedOther : other.IsStacked first second)
    (contained : first.IsSelfContained) (containedBehind : behind.IsSelfContained)
    (containedSecond : second.IsSelfContained) (none : behind.module.opening = [])
    (noneToo : second.module.opening = []) (imports : template.imports = other.imports) :
    template.spliceFront first.text.displayLines.length = other.spliceFront first.text.displayLines.length := by
  have line : template.module.importLine = other.module.importLine :=
    (stacked.importLine_eq none).trans (stackedOther.importLine_eq noneToo).symm
  unfold spliceFront
  rw [stacked.displayLines_eq contained, stackedOther.displayLines_eq contained, List.take_left, List.take_left,
    Template.opening, Template.opening, line, imports]
  congr 1
  refine List.flatMap_congr fun (text, number) among => ?_
  have inside := List.snd_lt_of_mem_zipIdx among
  rw [contained.alike] at inside
  have above : number ≤ first.text.sourceLines.length := by
    dsimp only at inside
    omega
  dsimp only
  unfold spliceLine insertions
  rw [stacked.isMarkerLine_above containedBehind above, stackedOther.isMarkerLine_above containedSecond above,
    stacked.blockAt?_above containedBehind above, stackedOther.blockAt?_above containedSecond above, line, imports]

end IsStacked

theorem IsRow.weave_eq {template : Template} {parts : List Template} (row : template.IsRow parts) :
    template.weave = parts.flatMap weave :=
  row.eq_flatMap weave rfl fun stacked contained containedBehind => stacked.weave_eq contained containedBehind

/-- The generated module is the front, with the imports, and what comes out of the other parts by themselves. -/
theorem IsRow.splice_eq {template first : Template} {parts : List Template} (row : template.IsRow (first :: parts))
    (none : ∀ part ∈ parts, part.module.opening = []) :
    template.splice = template.spliceFront first.text.displayLines.length ++ parts.flatMap weave := by
  cases row with
  | cons stacked contained _ rest =>
    rw [stacked.splice_eq contained (rest.opening_eq_nil none), rest.weave_eq]

/-- The front comes out in the same way whatever the order of the other parts. -/
theorem spliceFront_eq_of_perm {template other first : Template} {parts others : List Template}
    (row : template.IsRow (first :: parts)) (rowOther : other.IsRow (first :: others)) (perm : parts.Perm others)
    (none : ∀ part ∈ parts, part.module.opening = []) :
    template.spliceFront first.text.displayLines.length = other.spliceFront first.text.displayLines.length := by
  have imports := imports_eq_of_perm row rowOther (perm.cons first)
  cases row with
  | cons stacked contained containedBehind rest =>
    cases rowOther with
    | cons stackedOther _ containedSecond restOther =>
      exact stacked.spliceFront_eq stackedOther contained containedBehind containedSecond (rest.opening_eq_nil none)
        (restOther.opening_eq_nil fun part among => none part (perm.mem_iff.2 among)) imports

/-! ### Another order -/

end Template

/-- None of the statements of a text has to come first. -/
def Text.OpensNothing (text : Text) : Prop :=
  ∀ module, Module.ofText text = .ok module → module.opening = []

instance (text : Text) : Decidable text.OpensNothing :=
  decidable_of_iff (∀ module ∈ (Module.ofText text).toOption, module.opening.isEmpty)
    ⟨fun none module parsed => List.isEmpty_iff.1 (none module (by rw [parsed]; rfl)),
      fun none module parsed => List.isEmpty_iff.2 (none module (Template.eq_ok_of_toOption parsed))⟩

namespace Template

/-- The front of a template of records. -/
def recordFront : Text :=
  "import dataclasses\n"

/-- A record of a tree, which has a forest. -/
def treeRecord : Text :=
  "@diff\n@dataclasses.dataclass\nclass Tree:\n    forest: \"Forest\"\n"

/-- A record of a forest, which has a tree. -/
def forestRecord : Text :=
  "@diff\n@dataclasses.dataclass\nclass Forest:\n    tree: \"Tree\"\n"

/-- A record of a leaf, with a form feed in its last line. -/
def leafRecord : Text :=
  "@diff\n@dataclasses.dataclass\nclass Leaf:\n    tree: \"Tree\"  # \x0c\n"

end Template

end DifferenceTypes
