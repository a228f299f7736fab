import DifferenceTypes.Proofs.Generation.FrontStatements
import DifferenceTypes.Proofs.Syntax.ClassOrder
import DifferenceTypes.Proofs.Template.MarkerLines

/-!
# Line edits

The generator edits lines of a template by their numbers: it takes out the lines of markers, puts code
behind the last line of each marked class, and puts imports behind the statements that have to be
first. Spans number source lines, and the splice numbers display lines. Down to the last edited line the
two have to be the same; then every edit is made where the source lines say (`edits_of_template`), and a
marker that has its source lines for itself is accepted. Below that line they may differ.
-/

namespace DifferenceTypes

namespace Module

/-- The marked classes at the top of a module. -/
def markedTop (module : Module) : List ClassDefinition :=
  (module.filterMap Stmt.class?).filter fun definition => (Definition.ofClass definition).isMarked

/-- The last line that is edited: the last one of a marked class, or the one that imports follow. -/
def lastEdit (module : Module) : Nat :=
  (module.markedTop.map fun definition => definition.span.stop.line).foldr max module.importLine

theorem importLine_le_lastEdit (module : Module) : module.importLine ≤ module.lastEdit := by
  unfold lastEdit
  induction markedTop module with
  | nil => exact Nat.le_refl _
  | cons definition rest inductionHypothesis => exact inductionHypothesis.trans (Nat.le_max_right _ _)

theorem stop_le_lastEdit {module : Module} {definition : ClassDefinition}
    (among : definition ∈ module.markedTop) : definition.span.stop.line ≤ module.lastEdit := by
  unfold lastEdit
  generalize markedTop module = classes at among
  induction classes with
  | nil => exact absurd among List.not_mem_nil
  | cons first rest inductionHypothesis =>
    rcases List.mem_cons.1 among with rfl | behind
    · exact Nat.le_max_left _ _
    · exact (inductionHypothesis behind).trans (Nat.le_max_right _ _)

theorem eq_map_of_checkMarked {definitions : List Definition} {classes : List ClassDefinition}
    (checked : definitions.mapM (Definition.checkMarked true) = .ok classes) :
    definitions = classes.map Definition.ofClass := by
  induction definitions generalizing classes with
  | nil =>
    cases checked
    rfl
  | cons definition rest inductionHypothesis =>
    rw [List.mapM_cons] at checked
    obtain ⟨first, here, checked⟩ := Except.exists_of_bind_eq_ok checked
    obtain ⟨others, later, same⟩ := Except.exists_of_bind_eq_ok checked
    cases same
    cases definition with
    | ofFunction => exact nomatch here
    | ofClass =>
      cases here
      exact congrArg _ (inductionHypothesis later)

theorem eq_filter_of_map_ofClass {statements : List Stmt} {classes : List ClassDefinition}
    (marked : (statements.filterMap Stmt.definition?).filter Definition.isMarked =
      classes.map Definition.ofClass) :
    classes = (statements.filterMap Stmt.class?).filter fun definition =>
      (Definition.ofClass definition).isMarked := by
  induction statements generalizing classes with
  | nil => exact List.map_eq_nil_iff.1 marked.symm
  | cons statement rest inductionHypothesis =>
    have skip (noDefinition : statement.definition? = none ∨
        ∃ definition, statement.definition? = some definition ∧ definition.isMarked = false)
        (noClass : ∀ definition, statement.class? = some definition →
          (Definition.ofClass definition).isMarked = false) :
        classes = ((statement :: rest).filterMap Stmt.class?).filter fun definition =>
          (Definition.ofClass definition).isMarked := by
      have behind : classes = (rest.filterMap Stmt.class?).filter fun definition =>
          (Definition.ofClass definition).isMarked := by
        refine inductionHypothesis (marked ▸ ?_)
        rcases noDefinition with none | ⟨definition, isDefinition, unmarked⟩
        · rw [List.filterMap_cons_none none]
        · rw [List.filterMap_cons_some isDefinition, List.filter_cons_of_neg (by simp [unmarked])]
      cases isClass : statement.class? with
      | none => rw [List.filterMap_cons_none isClass, behind]
      | some definition =>
        rw [List.filterMap_cons_some isClass, List.filter_cons_of_neg (by simp [noClass definition isClass]),
          behind]
    cases statement with
    | classDefinition span identifier bases keywords body decorators =>
      have defines : Stmt.definition? (.classDefinition span identifier bases keywords body decorators) =
        some (.ofClass ⟨span, identifier, bases, keywords, body, decorators⟩) := rfl
      have makes : Stmt.class? (.classDefinition span identifier bases keywords body decorators) =
        some ⟨span, identifier, bases, keywords, body, decorators⟩ := rfl
      by_cases isMarked : (Definition.ofClass ⟨span, identifier, bases, keywords, body, decorators⟩).isMarked = true
      · rw [List.filterMap_cons_some defines, List.filter_cons_of_pos isMarked] at marked
        obtain ⟨first, others, rfl, same, later⟩ := List.map_eq_cons_iff.1 marked.symm
        cases same
        rw [List.filterMap_cons_some makes, List.filter_cons, if_pos isMarked, ← inductionHypothesis later.symm]
      · have unmarked := Bool.eq_false_iff.2 isMarked
        exact skip (.inr ⟨_, rfl, unmarked⟩) fun definition same => by cases same; exact unmarked
    | function span isAsync identifier parameters body decorators result =>
      have defines : Stmt.definition? (.function span isAsync identifier parameters body decorators result) =
        some (.ofFunction span identifier decorators) := rfl
      by_cases isMarked : (Definition.ofFunction span identifier decorators).isMarked = true
      · rw [List.filterMap_cons_some defines, List.filter_cons_of_pos isMarked] at marked
        obtain ⟨first, others, -, same, -⟩ := List.map_eq_cons_iff.1 marked.symm
        exact nomatch same
      · exact skip (.inr ⟨_, rfl, Bool.eq_false_iff.2 isMarked⟩) nofun
    | _ => exact skip (.inl rfl) nofun

/-- Where the marked definitions are classes at the top, they are the marked ones of these. -/
theorem eq_markedTop {module : Module} {classes : List ClassDefinition}
    (marked : module.markedClasses = .ok classes) : classes = module.markedTop := by
  have top := head?_definitionLevelsOf module
  unfold markedClasses at marked
  split at marked
  · next none =>
    cases marked
    rw [none, List.head?_nil, Option.getD_none] at top
    refine eq_filter_of_map_ofClass ?_
    rw [← top]
    rfl
  · next level nested levels =>
    rw [levels, List.head?_cons, Option.getD_some] at top
    obtain ⟨found, checked, marked⟩ := Except.exists_of_bind_eq_ok marked
    obtain ⟨_, -, same⟩ := Except.exists_of_bind_eq_ok marked
    cases same
    exact eq_filter_of_map_ofClass (top ▸ eq_map_of_checkMarked checked)

end Module

/-! ### Classes apart -/

namespace ClassDefinition

/-- Each of the classes below a line ends below it, with its decorators above its end. -/
theorem AreBelow.of_mem {low : Nat} {classes : List ClassDefinition} (areBelow : AreBelow low classes)
    {definition : ClassDefinition} (among : definition ∈ classes) :
    low < definition.span.stop.line ∧ ∀ decorator ∈ definition.decorators,
      (decorator.span.start = default ∨ low < decorator.span.start.line) ∧
        decorator.span.start.line < definition.span.stop.line ∧
        decorator.span.stop.line < definition.span.stop.line := by
  induction classes generalizing low with
  | nil => exact nomatch among
  | cons first rest inductionHypothesis =>
    obtain ⟨⟨middle, decorators, lower, upper⟩, behind⟩ := areBelow
    rcases List.mem_cons.1 among with rfl | later
    · exact ⟨lower.trans_lt upper, fun decorator isDecorator =>
        have within := decorators decorator isDecorator
        ⟨within.start, within.startBound.trans_lt upper, within.bound.trans_lt upper⟩⟩
    · exact inductionHypothesis (behind.mono (lower.trans upper.le)) later

/-- Classes end on lines of their own, one below the other. -/
theorem AreBelow.pairwise {low : Nat} {classes : List ClassDefinition} (areBelow : AreBelow low classes) :
    classes.Pairwise fun first second => first.span.stop.line < second.span.stop.line := by
  induction classes generalizing low with
  | nil => exact .nil
  | cons definition rest inductionHypothesis =>
    exact .cons (fun other among => (areBelow.2.of_mem among).1) (inductionHypothesis areBelow.2)

/-- No class ends on a line of a decorator. -/
theorem AreBelow.ne_stop {low : Nat} {classes : List ClassDefinition} (areBelow : AreBelow low classes)
    {definition other : ClassDefinition} (among : definition ∈ classes) (amongToo : other ∈ classes)
    {decorator : Expr} (isDecorator : decorator ∈ definition.decorators)
    (placed : decorator.span.start ≠ default) {number : Nat} (first : decorator.span.start.line ≤ number)
    (last : number ≤ decorator.span.stop.line) : other.span.stop.line ≠ number := by
  induction classes generalizing low with
  | nil => exact nomatch among
  | cons head rest inductionHypothesis =>
    have own := (areBelow.of_mem among).2 decorator isDecorator
    obtain ⟨-, behind⟩ := areBelow
    rcases List.mem_cons.1 among with rfl | later
    · rcases List.mem_cons.1 amongToo with rfl | below
      · omega
      · have lower := (behind.of_mem below).1
        omega
    · rcases List.mem_cons.1 amongToo with rfl | below
      · have lower := ((behind.of_mem later).2 decorator isDecorator).1.resolve_left placed
        omega
      · exact inductionHypothesis behind later below

end ClassDefinition

namespace Template

variable {text : Text} {template : Template}

/-- Blocks leave the lines alone down to the one that imports follow. -/
theorem leavesUpTo_importLine (accepted : read text = .ok template) :
    template.LeavesUpTo template.module.importLine := by
  obtain ⟨-, parsed⟩ := ofText_of_read accepted
  obtain ⟨_, source, _, _, -, -, -, -, -, -, parsed⟩ := Module.exists_of_ofText parsed
  cases isLast : template.module.opening.getLast? with
  | none =>
    intro number positive inside
    rw [Module.importLine, isLast] at inside
    exact absurd inside (by simp; omega)
  | some last =>
    have stop : template.module.importLine = last.span.stop.line := by
      rw [Module.importLine, isLast]
      rfl
    obtain ⟨early, isOpening⟩ := List.getLast?_eq_some_iff.1 isLast
    obtain ⟨later, split⟩ := Module.opening_isPrefix template.module
    rw [isOpening, List.append_assoc, List.singleton_append] at split
    have simple {statement : Stmt} (among : statement ∈ early ++ [last]) : statement.isSimple = true :=
      (Module.isSimple_of_mem_opening (isOpening ▸ among)).1
    rw [← split] at parsed
    obtain ⟨above, line, below, found, front, here, rest, -, isLine, first, behind, rfl, rfl, rfl⟩ :=
      Module.exists_simpleLine (simple (by simp)) parsed
    have bound := (isLine.spansOn last (by simp) last.span List.mem_cons_self).bound
    have unmarked : ∀ statement ∈ front ++ (first ++ last :: behind), statement.isMarked = false := by
      intro statement among
      refine Stmt.isMarked_of_isSimple ?_
      rcases List.mem_append.1 among with before | there
      · exact simple (by simp [before])
      · exact isLine.isSimple_of_mem there
    have divided : template.module = (front ++ (first ++ last :: behind)) ++ rest := by
      rw [← split]
      simp
    have leaves := leavesUpTo_of_split accepted divided unmarked isLine.spansBelow
    exact fun number positive inside => leaves number positive (by omega)

/-! ### Blocks and their classes -/

variable {taken display : List Text} {classes : List ClassDefinition} {blocks : List Block}

theorem forall₂_of_ofClasses (made : Block.ofClasses text display taken classes = .ok blocks) :
    List.Forall₂ (fun definition block => Block.ofClass text display definition = .ok block) classes blocks := by
  induction classes generalizing taken blocks with
  | nil =>
    cases made
    exact .nil
  | cons definition rest inductionHypothesis =>
    unfold Block.ofClasses at made
    obtain ⟨first, here, made⟩ := Except.exists_of_bind_eq_ok made
    obtain ⟨_, -, made⟩ := Except.exists_of_bind_eq_ok made
    obtain ⟨others, later, same⟩ := Except.exists_of_bind_eq_ok made
    cases same
    exact .cons here (inductionHypothesis later)

theorem lines_of_ofClass {definition : ClassDefinition} {block : Block}
    (made : Block.ofClass text display definition = .ok block) :
    block.stop = definition.span.stop.line ∧
      (definition.decorators.filter Expr.isMarker).mapM (fun marker =>
        Marker.lines display (.ofSpan marker.span)) = .ok block.markerLines := by
  unfold Block.ofClass at made
  obtain ⟨options, -, made⟩ := Except.exists_of_bind_eq_ok made
  obtain ⟨shape, -, made⟩ := Except.exists_of_bind_eq_ok made
  obtain ⟨fields, -, made⟩ := Except.exists_of_bind_eq_ok made
  obtain ⟨markerLines, found, made⟩ := Except.exists_of_bind_eq_ok made
  cases made
  exact ⟨rfl, found⟩

/-- A line is a marker's line if and only if it lies in the span of a marker of a class. -/
theorem isMarkerLine_iff
    (made : List.Forall₂ (fun definition block => Block.ofClass text display definition = .ok block) classes
      template.blocks) (number : Nat) :
    template.isMarkerLine number = true ↔ ∃ definition ∈ classes, ∃ marker ∈ definition.decorators,
      marker.isMarker = true ∧ marker.span.start.line ≤ number ∧ number ≤ marker.span.stop.line := by
  rw [isMarkerLine]
  generalize template.blocks = blocks at made
  induction made with
  | nil => simp
  | @cons definition block classes blocks here later inductionHypothesis =>
    have own : (block.markerLines.any fun lines => lines.1 ≤ number && (number : Int) ≤ lines.2) = true ↔
        ∃ marker ∈ definition.decorators, marker.isMarker = true ∧
          marker.span.start.line ≤ number ∧ number ≤ marker.span.stop.line := by
      obtain ⟨-, found⟩ := lines_of_ofClass here
      rw [List.any_eq_true]
      constructor
      · rintro ⟨lines, isLines, inside⟩
        obtain ⟨marker, among, isFound⟩ := exists_of_mem_mapM found isLines
        obtain ⟨isDecorator, isMarker⟩ := List.mem_filter.1 among
        cases Marker.eq_of_lines isFound
        refine ⟨marker, isDecorator, isMarker, ?_⟩
        simpa [Marker.Place.ofSpan] using inside
      · rintro ⟨marker, isDecorator, isMarker, inside⟩
        obtain ⟨lines, isLines, isFound⟩ :=
          exists_mem_of_mapM found (List.mem_filter.2 ⟨isDecorator, isMarker⟩)
        cases Marker.eq_of_lines isFound
        exact ⟨_, isLines, by simpa [Marker.Place.ofSpan] using inside⟩
    rw [List.any_cons, Bool.or_eq_true, inductionHypothesis]
    refine (or_congr_left own).trans ?_
    simp

/-- Each class gave a block. -/
theorem exists_block
    (made : List.Forall₂ (fun definition block => Block.ofClass text display definition = .ok block) classes
      blocks) {definition : ClassDefinition} (among : definition ∈ classes) :
    ∃ block ∈ blocks, Block.ofClass text display definition = .ok block := by
  induction made with
  | nil => exact nomatch among
  | @cons first firstBlock classes blocks here later inductionHypothesis =>
    rcases List.mem_cons.1 among with rfl | behind
    · exact ⟨firstBlock, List.mem_cons_self, here⟩
    · obtain ⟨block, isBlock, there⟩ := inductionHypothesis behind
      exact ⟨block, List.mem_cons_of_mem _ isBlock, there⟩

/-- Where classes end on lines of their own, the block of a class is the one found at its last line. -/
theorem find?_of_mem_zip
    (made : List.Forall₂ (fun definition block => Block.ofClass text display definition = .ok block) classes
      blocks)
    (apart : classes.Pairwise fun first second => first.span.stop.line < second.span.stop.line)
    {definition : ClassDefinition} {block : Block} (among : (definition, block) ∈ classes.zip blocks) :
    blocks.find? (fun other => other.stop == (definition.span.stop.line : Int)) = some block := by
  induction made with
  | nil => exact nomatch among
  | @cons first firstBlock classes blocks here later inductionHypothesis =>
    obtain ⟨below, apart⟩ := List.pairwise_cons.1 apart
    have stop := (lines_of_ofClass here).1
    rcases List.mem_cons.1 among with same | behind
    · cases same
      exact List.find?_cons_of_pos (by simp [stop])
    · have lower := below definition (List.of_mem_zip behind).1
      rw [List.find?_cons_of_neg (by simp only [stop, beq_iff_eq]; omega)]
      exact inductionHypothesis apart behind

/-- No block is found at a line on which no class ends. -/
theorem find?_eq_none_of_ne
    (made : List.Forall₂ (fun definition block => Block.ofClass text display definition = .ok block) classes
      blocks) {number : Nat} (other : ∀ definition ∈ classes, definition.span.stop.line ≠ number) :
    blocks.find? (fun block => block.stop == (number : Int)) = none := by
  induction made with
  | nil => rfl
  | @cons first firstBlock classes blocks here later inductionHypothesis =>
    have stop := (lines_of_ofClass here).1
    have apart := other first List.mem_cons_self
    rw [List.find?_cons_of_neg (by simp only [stop, beq_iff_eq]; omega)]
    exact inductionHypothesis fun definition among => other definition (List.mem_cons_of_mem _ among)

/-! ### What becomes of a line -/

/-- A line lies in the span of a marker of a marked class. -/
def IsOfMarker (template : Template) (number : Nat) : Prop :=
  ∃ definition ∈ template.module.markedTop, ∃ marker ∈ definition.decorators,
    marker.isMarker = true ∧ marker.span.start.line ≤ number ∧ number ≤ marker.span.stop.line

/-- What comes out of a line, by its number: nothing of a marker's line; behind the last line of a marked
class the code that is generated for it; behind the line that has to be above the imports these, where some
are needed; every other line as it is. -/
structure IsEdited (template : Template) (number : Nat) (line piece : Text) : Prop where
  removed : template.IsOfMarker number → piece = []
  code : ∀ definition block, (definition, block) ∈ template.module.markedTop.zip template.blocks →
    definition.span.stop.line = number →
      piece = line ++ missingLineEnd line ++ ("\n\n" ++ Code.render block ++ "\n")
  imports : number = template.module.importLine → template.imports.flatten ≠ [] →
    piece = line ++ template.importsBehind line
  kept : ¬template.IsOfMarker number →
    (∀ definition ∈ template.module.markedTop, definition.span.stop.line ≠ number) →
      (number ≠ template.module.importLine ∨ template.imports.flatten = []) → piece = line

/-- The marked classes at the top gave the blocks. -/
theorem forall₂_markedTop (accepted : read text = .ok template) :
    List.Forall₂ (fun definition block => Block.ofClass text text.displayLines definition = .ok block)
      template.module.markedTop template.blocks := by
  obtain ⟨classes, marked, made⟩ := read_eq_ok accepted
  exact Module.eq_markedTop marked ▸ forall₂_of_ofClasses made

theorem isMarkerLine_iff_isOfMarker (accepted : read text = .ok template) (number : Nat) :
    template.isMarkerLine number = true ↔ template.IsOfMarker number :=
  isMarkerLine_iff (forall₂_markedTop accepted) number

end Template

/-- The marked classes at the top stand one below the other, each below its decorators. -/
theorem Module.areBelow_markedTop {text : Text} {module : Module} (parsed : ofText text = .ok module) :
    ClassDefinition.AreBelow 0 module.markedTop := by
  obtain ⟨_, source, _, _, -, -, -, -, -, -, parsed⟩ := exists_of_ofText parsed
  exact (areBelow_of_parse? parsed).sublist List.filter_sublist

theorem Module.stop_line_le_of_markedTop {text : Text} {module : Module} (parsed : ofText text = .ok module)
    {definition : ClassDefinition} (isTop : definition ∈ module.markedTop) :
    definition.span.stop.line ≤ text.sourceLines.length := by
  obtain ⟨statement, among, isClass⟩ := List.mem_filterMap.1 (List.mem_filter.1 isTop).1
  rw [(Stmt.span_of_class? isClass).1]
  exact stop_line_le parsed among

/-- Imports follow a line that is there, or none. -/
theorem Module.importLine_le {text : Text} {module : Module} (parsed : ofText text = .ok module) :
    module.importLine ≤ text.sourceLines.length := by
  unfold importLine
  cases isLast : module.opening.getLast? with
  | none => exact Nat.zero_le _
  | some last =>
    obtain ⟨rest, split⟩ := opening_isPrefix module
    have among : last ∈ module := split ▸ List.mem_append_left _ (List.mem_of_getLast? isLast)
    exact stop_line_le parsed among

namespace Template

variable {text : Text} {template : Template}

/-- A marker of a marked class has a sign before it, so its place is known. -/
theorem start_ne_default (accepted : read text = .ok template) {definition : ClassDefinition}
    (isTop : definition ∈ template.module.markedTop) {marker : Expr} (isDecorator : marker ∈ definition.decorators)
    (isMarker : marker.isMarker = true) : marker.span.start ≠ default := by
  obtain ⟨block, -, isBlock⟩ : ∃ block ∈ template.blocks,
      Block.ofClass text text.displayLines definition = .ok block :=
    exists_block (forall₂_markedTop accepted) isTop
  obtain ⟨lines, -, isFound⟩ := exists_mem_of_mapM (lines_of_ofClass isBlock).2
    (List.mem_filter.2 ⟨isDecorator, isMarker⟩)
  exact fun none => (Marker.column_of_lines isFound).2 (by simp only [Marker.Place.ofSpan, none]; rfl)

/-- A marker's line is no last line of a marked class. -/
theorem isMarkerLine_stop (accepted : read text = .ok template) {definition : ClassDefinition}
    (among : definition ∈ template.module.markedTop) :
    template.isMarkerLine definition.span.stop.line = false := by
  have made := forall₂_markedTop accepted
  rw [Bool.eq_false_iff, ne_eq, isMarkerLine_iff made]
  rintro ⟨other, isOther, marker, isDecorator, isMarker, first, last⟩
  have sign := start_ne_default accepted isOther isDecorator isMarker
  obtain ⟨-, parsed⟩ := ofText_of_read accepted
  exact (Module.areBelow_markedTop parsed).ne_stop isOther among isDecorator sign first last rfl

/-- Each line comes out as its number says. -/
theorem isEdited_spliceLine (accepted : read text = .ok template) (line : Text) {number : Nat}
    (positive : 1 ≤ number) : template.IsEdited number line (template.spliceLine line number) := by
  have made := forall₂_markedTop accepted
  obtain ⟨-, parsed⟩ := ofText_of_read accepted
  have leaves := leavesUpTo_importLine accepted
  constructor
  case removed =>
    intro isOfMarker
    rw [spliceLine, (isMarkerLine_iff_isOfMarker accepted number).2 isOfMarker]
    rfl
  case code =>
    rintro definition block among rfl
    have isTop := (List.of_mem_zip among).1
    have found : template.blockAt? definition.span.stop.line = some block :=
      find?_of_mem_zip made (Module.areBelow_markedTop parsed).pairwise among
    have below : template.module.importLine < definition.span.stop.line := by
      by_contra above
      cases found.symm.trans (leaves _ positive (by omega)).2
    have only : template.insertions definition.span.stop.line =
        ["\n\n" ++ Code.render block ++ "\n"] := by
      rw [insertions, found]
      simp [below.ne']
    rw [spliceLine, isMarkerLine_stop accepted isTop, only]
    simp
  case imports =>
    intro here nonempty
    obtain ⟨unmarked, unblocked⟩ := leaves number positive here.le
    exact spliceLine_of_eq unmarked unblocked line here nonempty
  case kept =>
    intro unmarked other apart
    refine spliceLine_of_ne (Bool.eq_false_iff.2 fun isMarkerLine => ?_) (find?_eq_none_of_ne made other) line apart
    exact unmarked ((isMarkerLine_iff_isOfMarker accepted number).1 isMarkerLine)

/-- Below the last edit every line comes out as it is. -/
theorem flatMap_spliceLine_of_lastEdit_lt (accepted : read text = .ok template) (lines : List Text) {start : Nat}
    (below : template.module.lastEdit < start) :
    (lines.zipIdx start).flatMap (fun (line, number) => template.spliceLine line number) = lines.flatten := by
  have made := forall₂_markedTop accepted
  obtain ⟨-, parsed⟩ := ofText_of_read accepted
  refine flatMap_spliceLine fun number above _ => ⟨?_, ?_, .inl ?_⟩
  · rw [Bool.eq_false_iff, ne_eq, isMarkerLine_iff made]
    rintro ⟨definition, isTop, marker, isDecorator, -, -, last⟩
    have own := ((Module.areBelow_markedTop parsed).of_mem isTop).2 marker isDecorator
    have stop := Module.stop_le_lastEdit isTop
    omega
  · refine find?_eq_none_of_ne made fun definition isTop => ?_
    have stop := Module.stop_le_lastEdit isTop
    omega
  · have imports := template.module.importLine_le_lastEdit
    omega

/-- Where lines are numbered alike down to the last edit, a template is put together from source lines. -/
theorem splice_of_numbersAlike (accepted : read text = .ok template)
    (alike : text.NumbersAlike template.module.lastEdit) :
    template.splice = template.opening ++
      (text.sourceLines.zipIdx 1).flatMap fun (line, number) => template.spliceLine line number := by
  obtain ⟨same, -⟩ := ofText_of_read accepted
  rw [splice, same]
  congr 1
  have divided (lines : List Text) :
      (lines.zipIdx 1).flatMap (fun (line, number) => template.spliceLine line number) =
        ((lines.take template.module.lastEdit).zipIdx 1).flatMap
          (fun (line, number) => template.spliceLine line number) ++
          (lines.drop template.module.lastEdit).flatten := by
    conv_lhs => rw [← List.take_append_drop template.module.lastEdit lines]
    rw [List.zipIdx_append, List.flatMap_append]
    congr 1
    by_cases more : lines.length ≤ template.module.lastEdit
    · rw [List.drop_eq_nil_of_le more]
      rfl
    · refine flatMap_spliceLine_of_lastEdit_lt accepted _ ?_
      rw [List.length_take]
      omega
  have rest : (text.displayLines.drop template.module.lastEdit).flatten =
      (text.sourceLines.drop template.module.lastEdit).flatten := by
    have whole : text.displayLines.flatten = text.sourceLines.flatten :=
      (Text.flatten_linesEndingAt _ _).trans (Text.flatten_linesEndingAt _ _).symm
    rw [← List.take_append_drop template.module.lastEdit text.displayLines,
      ← List.take_append_drop template.module.lastEdit text.sourceLines, List.flatten_append,
      List.flatten_append, alike] at whole
    exact List.append_cancel_left whole
  rw [divided text.displayLines, divided text.sourceLines, rest, alike]

/-- Down to the last line that is edited, display lines and source lines being the same, a marker that has
its source lines for itself is accepted, and an accepted template is edited where source lines say: every
marked class ends on a line that is there, and each line comes out as its number says. -/
theorem edits_of_sourceLines {module : Module} (parsed : Module.ofText text = .ok module)
    (alike : text.NumbersAlike module.lastEdit) :
    (∀ definition ∈ module.markedTop, ∀ marker ∈ definition.decorators, marker.isMarker = true →
      Marker.StandsAlone text marker.span →
        Marker.lines text.displayLines (.ofSpan marker.span) =
          .ok ((marker.span.start.line : Int), (marker.span.stop.line : Int))) ∧
    ∀ template, read text = .ok template →
      template.module = module ∧
      List.Forall₂ (fun definition block => Block.ofClass text text.displayLines definition = .ok block)
        module.markedTop template.blocks ∧
      (∀ definition ∈ module.markedTop, 1 ≤ definition.span.stop.line ∧
        definition.span.stop.line ≤ text.sourceLines.length) ∧
      module.importLine ≤ text.sourceLines.length ∧
      ∃ pieces, template.splice = template.opening ++ pieces.flatten ∧
        List.Forall₂ (fun line piece => template.IsEdited line.2 line.1 piece) (text.sourceLines.zipIdx 1)
          pieces := by
  have areBelow := Module.areBelow_markedTop parsed
  constructor
  · intro definition isTop marker isDecorator isMarker alone
    obtain ⟨-, first, last⟩ := (areBelow.of_mem isTop).2 marker isDecorator
    have stop := Module.stop_le_lastEdit isTop
    exact Marker.lines_of_standsAlone alike alone (by omega) (by omega)
  · intro template accepted
    obtain ⟨-, same⟩ := ofText_of_read accepted
    obtain rfl : template.module = module := Except.ok.inj (same.symm.trans parsed)
    refine ⟨rfl, forall₂_markedTop accepted, fun definition isTop =>
      ⟨(areBelow.of_mem isTop).1, Module.stop_line_le_of_markedTop parsed isTop⟩, Module.importLine_le parsed,
      (text.sourceLines.zipIdx 1).map fun (line, number) => template.spliceLine line number, ?_, ?_⟩
    · rw [splice_of_numbersAlike accepted alike]
      rfl
    · rw [List.forall₂_map_right_iff, List.forall₂_same]
      rintro ⟨line, number⟩ among
      exact isEdited_spliceLine accepted line (List.le_snd_of_mem_zipIdx among)

/-- A template with a form feed below its marked class. -/
def formFeedBelow : Text :=
  "@diff\nclass P:\n    x: int\n# \x0c\n"

/-- A form feed below the last edit does not matter. -/
theorem edits_of_formFeedBelow : ∃ module definition marker, Module.ofText formFeedBelow = .ok module ∧
    formFeedBelow.NumbersAlike module.lastEdit ∧ formFeedBelow.displayLines ≠ formFeedBelow.sourceLines ∧
    definition ∈ module.markedTop ∧ marker ∈ definition.decorators ∧
    Marker.lines formFeedBelow.displayLines (.ofSpan marker.span) = .ok (1, 1) ∧
    ∃ template pieces, read formFeedBelow = .ok template ∧ template.splice = template.opening ++ pieces.flatten ∧
      List.Forall₂ (fun line piece => template.IsEdited line.2 line.1 piece)
        (formFeedBelow.sourceLines.zipIdx 1) pieces := by
  obtain ⟨template, accepted, known⟩ := exists_of_read
    (show (read formFeedBelow).toOption.map (fun template =>
      (decide (formFeedBelow.NumbersAlike template.module.lastEdit),
        template.module.markedTop.any fun definition => definition.decorators.any fun marker =>
          marker.isMarker && marker.span == ⟨⟨1, 1⟩, ⟨1, 5⟩⟩)) = some (true, true) by decide +kernel)
  obtain ⟨alike, found⟩ := Prod.mk.inj known
  obtain ⟨definition, isTop, found⟩ := List.any_eq_true.1 found
  obtain ⟨marker, isDecorator, found⟩ := List.any_eq_true.1 found
  obtain ⟨isMarker, isSpan⟩ := Bool.and_eq_true_iff.1 found
  have span := eq_of_beq isSpan
  obtain ⟨-, parsed⟩ := ofText_of_read accepted
  have alone : Marker.StandsAlone formFeedBelow marker.span := by
    rw [span]
    exact ⟨⟨[], [], "diff\n".toList, by decide, by decide, by simp⟩,
      ⟨"@diff".toList, ['\n'], [], by decide, by decide,
          List.forall_mem_singleton.2 (by decide), .inl rfl⟩⟩
  obtain ⟨markers, edits⟩ := edits_of_sourceLines parsed (of_decide_eq_true alike)
  obtain ⟨-, -, -, -, pieces, whole, edited⟩ := edits template accepted
  refine ⟨template.module, definition, marker, parsed, of_decide_eq_true alike, by decide, isTop,
    isDecorator, ?_, template, pieces, accepted, whole, edited⟩
  rw [markers definition isTop marker isDecorator isMarker alone, span]
  rfl

/-- A template with a form feed above its marked class. -/
def formFeedAbove : Text :=
  "# \x0c\n@diff\nclass P:\n    x: int\n"

/-- A marker that has its source line for itself is not accepted below a form feed. -/
theorem marker_refused_below_formFeed : ∃ module definition marker, Module.ofText formFeedAbove = .ok module ∧
    module.markedTop = [definition] ∧ definition.decorators = [marker] ∧ marker.isMarker = true ∧
    Marker.StandsAlone formFeedAbove marker.span ∧
    (Marker.lines formFeedAbove.displayLines (.ofSpan marker.span)).toOption = none ∧
    (read formFeedAbove).toOption.isNone = true := by
  have known : (Module.ofText formFeedAbove).toOption.map (fun module => module.markedTop.map fun definition =>
      definition.decorators.map fun marker => (marker.isMarker, marker.span)) =
        some [[(true, ⟨⟨2, 1⟩, ⟨2, 5⟩⟩)]] := by decide +kernel
  obtain ⟨module, parsed, found⟩ := Option.map_eq_some_iff.1 known
  obtain ⟨definition, isTop, inside⟩ := List.map_eq_singleton_iff.1 found
  obtain ⟨marker, decorators, same⟩ := List.map_eq_singleton_iff.1 inside
  obtain ⟨isMarker, span⟩ := Prod.mk.inj same
  refine ⟨module, definition, marker, eq_ok_of_toOption parsed, isTop, decorators, isMarker, ?_, ?_,
    by decide +kernel⟩
  · rw [span]
    exact ⟨⟨[], [], "diff\n".toList, by decide, by decide, by simp⟩,
      ⟨"@diff".toList, ['\n'], [], by decide, by decide,
      List.forall_mem_singleton.2 (by decide), .inl rfl⟩⟩
  · rw [span]
    decide

end Template

end DifferenceTypes
