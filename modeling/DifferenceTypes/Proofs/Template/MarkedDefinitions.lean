import DifferenceTypes.Proofs.Template.Failures

/-!
# Marked definitions

Definitions are looked for level by level, through all blocks of all statements. No definition is missed: those
of the levels are the ones that stand anywhere in the module, and those below the first level stand in a
block (`mem_flatten_definitionLevelsOf`, `mem_tail_definitionLevelsOf`). So a marker on a function, or on a
class that is not at the top, is a fault wherever it stands, and without such a marker the marked classes are
those at the top that have one (`Module.markedClasses_of_ordered`).
-/

namespace DifferenceTypes

/-! ### Levels side by side -/

section Levels

variable {α : Type}

theorem besides_nil (levels : List (List α)) : besides levels [] = levels := by
  cases levels <;> rfl

theorem tail_besides (first second : List (List α)) :
    (besides first second).tail = besides first.tail second.tail := by
  cases first with
  | nil => rfl
  | cons level first =>
    cases second with
    | nil => exact (besides_nil first).symm
    | cons other second => rfl

/-- What levels side by side hold is what one or the other holds. -/
theorem mem_flatten_besides {value : α} (first second : List (List α)) :
    value ∈ (besides first second).flatten ↔ value ∈ first.flatten ∨ value ∈ second.flatten := by
  induction first generalizing second with
  | nil => simp [besides]
  | cons level first inductionHypothesis =>
    cases second with
    | nil => simp [besides]
    | cons other second =>
      rw [besides, List.flatten_cons, List.flatten_cons, List.flatten_cons, List.mem_append, List.mem_append,
        inductionHypothesis, List.mem_append, List.mem_append]
      tauto

theorem mem_tail_besides {value : α} (first second : List (List α)) :
    value ∈ (besides first second).tail.flatten ↔ value ∈ first.tail.flatten ∨ value ∈ second.tail.flatten := by
  rw [tail_besides, mem_flatten_besides]

theorem mem_flatten_iff_head_or_tail {value : α} (levels : List (List α)) :
    value ∈ levels.flatten ↔ value ∈ levels.head?.getD [] ∨ value ∈ levels.tail.flatten := by
  cases levels <;> simp

end Levels

/-! ### Definitions in blocks -/

theorem mem_flatten_caseLevels {definition : Definition} (cases : List Case) :
    definition ∈ (caseLevels cases).flatten ↔
      ∃ block ∈ cases.map Case.body, definition ∈ (definitionLevelsOf block).flatten := by
  induction cases with
  | nil => simp [caseLevels]
  | cons first rest inductionHypothesis =>
    obtain ⟨pattern, guard, body⟩ := first
    rw [caseLevels, mem_flatten_besides, inductionHypothesis, List.flatten_cons, List.nil_append]
    simp [Case.body]

theorem mem_flatten_handlerLevels {definition : Definition} (handlers : List Handler) :
    definition ∈ (handlerLevels handlers).flatten ↔
      ∃ block ∈ handlers.map Handler.body, definition ∈ (definitionLevelsOf block).flatten := by
  induction handlers with
  | nil => simp [handlerLevels]
  | cons first rest inductionHypothesis =>
    obtain ⟨type, identifier, body⟩ := first
    rw [handlerLevels, mem_flatten_besides, inductionHypothesis, List.flatten_cons, List.nil_append]
    simp [Handler.body]

/-- Below its own level a statement has the definitions of its blocks. -/
theorem Stmt.mem_tail_definitionLevels {definition : Definition} (statement : Stmt) :
    definition ∈ statement.definitionLevels.tail.flatten ↔
      ∃ block ∈ statement.blocks, definition ∈ (definitionLevelsOf block).flatten := by
  cases statement with
  | matchBlock span subject cases => exact mem_flatten_caseLevels cases
  | tryBlock span isGroup body handlers otherwise cleanup =>
    rw [definitionLevels, List.tail_cons, mem_flatten_besides, mem_flatten_besides, mem_flatten_besides,
      mem_flatten_handlerLevels]
    simp only [blocks, List.cons_append, List.mem_cons, List.mem_append, List.not_mem_nil, or_false]
    constructor
    · rintro (inBody | ⟨block, isHandler, inHandler⟩ | inOtherwise | inCleanup)
      · exact ⟨body, .inl rfl, inBody⟩
      · exact ⟨block, .inr (.inl isHandler), inHandler⟩
      · exact ⟨otherwise, .inr (.inr (.inl rfl)), inOtherwise⟩
      · exact ⟨cleanup, .inr (.inr (.inr rfl)), inCleanup⟩
    · rintro ⟨block, rfl | isHandler | rfl | rfl, inBlock⟩
      · exact .inl inBlock
      · exact .inr (.inl ⟨block, isHandler, inBlock⟩)
      · exact .inr (.inr (.inl inBlock))
      · exact .inr (.inr (.inr inBlock))
  | function | classDefinition | withBlock => simp [definitionLevels, blocks]
  | conditional | whileLoop | forLoop =>
    rw [definitionLevels, List.tail_cons, mem_flatten_besides]
    simp [blocks]
  | _ => simp [definitionLevels, blocks]

theorem mem_tail_definitionLevelsOf_iff {definition : Definition} (statements : List Stmt) :
    definition ∈ (definitionLevelsOf statements).tail.flatten ↔
      ∃ statement ∈ statements, ∃ block ∈ statement.blocks,
        definition ∈ (definitionLevelsOf block).flatten := by
  induction statements with
  | nil => simp [definitionLevelsOf]
  | cons first rest inductionHypothesis =>
    rw [definitionLevelsOf, mem_tail_besides, first.mem_tail_definitionLevels, inductionHypothesis]
    simp

/-- The levels of statements hold what statements anywhere in them define. -/
theorem mem_flatten_definitionLevelsOf {definition : Definition} (statements : List Stmt) :
    definition ∈ (definitionLevelsOf statements).flatten ↔
      ∃ depth statement, StandsAt depth statements statement ∧ statement.definition? = some definition := by
  induction statements using blocks_induction with
  | step statements inBlocks =>
    rw [mem_flatten_iff_head_or_tail, head?_definitionLevelsOf, mem_tail_definitionLevelsOf_iff,
      List.mem_filterMap]
    constructor
    · rintro (⟨statement, among, defines⟩ | ⟨outer, among, block, isBlock, inBlock⟩)
      · exact ⟨0, statement, .here among, defines⟩
      · obtain ⟨depth, statement, stands, defines⟩ := (inBlocks outer among block isBlock).1 inBlock
        exact ⟨depth + 1, statement, .inside among isBlock stands, defines⟩
    · rintro ⟨depth, statement, stands, defines⟩
      cases stands with
      | here among => exact .inl ⟨statement, among, defines⟩
      | inside among isBlock deeper =>
        exact .inr ⟨_, among, _, isBlock, (inBlocks _ among _ isBlock).2 ⟨_, statement, deeper, defines⟩⟩

/-- The levels below the first hold what statements inside of blocks define. -/
theorem mem_tail_definitionLevelsOf {definition : Definition} (statements : List Stmt) :
    definition ∈ (definitionLevelsOf statements).tail.flatten ↔
      ∃ depth statement, StandsAt (depth + 1) statements statement ∧ statement.definition? = some definition := by
  rw [mem_tail_definitionLevelsOf_iff]
  constructor
  · rintro ⟨outer, among, block, isBlock, inBlock⟩
    obtain ⟨depth, statement, stands, defines⟩ := (mem_flatten_definitionLevelsOf block).1 inBlock
    exact ⟨depth, statement, .inside among isBlock stands, defines⟩
  · rintro ⟨depth, statement, stands, defines⟩
    cases stands with
    | inside among isBlock deeper =>
      exact ⟨_, among, _, isBlock, (mem_flatten_definitionLevelsOf _).2 ⟨depth, statement, deeper, defines⟩⟩

/-! ### Markers that are not allowed -/

/-- A marked definition so many blocks deep is at fault: every function, and every class below the top. -/
inductive Definition.IsMisplaced : Nat → Definition → Fault → Span → Prop
  | function {depth : Nat} {span : Span} {identifier : String} {decorators : List Expr} :
      IsMisplaced depth (.ofFunction span identifier decorators) (.markedFunction identifier) span
  | nested {depth : Nat} {definition : ClassDefinition} (below : 0 < depth) :
      IsMisplaced depth (.ofClass definition) (.nestedClass definition.identifier) definition.span

namespace Module

/-- Somewhere in the module a marked definition may not be marked; the fault is on its span. -/
def Misplaces (module : Module) (fault : Fault) (span : Span) : Prop :=
  ∃ depth statement definition, StandsAt depth module statement ∧ statement.definition? = some definition ∧
    definition.isMarked = true ∧ definition.IsMisplaced depth fault span

/-- What is not accepted as marked is misplaced. -/
theorem isMisplaced_of_checkMarked {isTop : Bool} {definition : Definition} {error : TemplateError}
    (failed : definition.checkMarked isTop = .error error) {depth : Nat} (deep : isTop = false → 0 < depth) :
    ∃ fault span, definition.IsMisplaced depth fault span ∧ fault.kind = .template ∧
      error = .ofFault fault span := by
  cases definition with
  | ofFunction span identifier decorators =>
    cases failed
    exact ⟨_, _, .function, rfl, rfl⟩
  | ofClass definition =>
    cases isTop with
    | true => exact nomatch failed
    | false =>
      cases failed
      exact ⟨_, _, .nested (deep rfl), rfl, rfl⟩

/-- Marked classes are only refused for a marked definition that is misplaced. -/
theorem failsOnly_misplaced (module : Module) :
    FailsOnly (fun error => ∃ fault span, module.Misplaces fault span ∧ fault.kind = .template ∧
      error = .ofFault fault span) module.markedClasses := by
  have top := head?_definitionLevelsOf module
  have below {definition : Definition} := @mem_tail_definitionLevelsOf definition module
  unfold markedClasses
  split
  · exact .of_ok rfl
  · next level nested levels =>
    rw [levels, List.head?_cons, Option.getD_some] at top
    rw [levels, List.tail_cons] at below
    refine .bind (.mapM fun definition among => ?_) fun classes _ => ?_
    · obtain ⟨isTop, isMarked⟩ := List.mem_filter.1 among
      rw [top] at isTop
      obtain ⟨statement, isStatement, defines⟩ := List.mem_filterMap.1 isTop
      intro error failed
      obtain ⟨fault, span, isMisplaced, isTemplate, same⟩ :
          ∃ fault span, definition.IsMisplaced 0 fault span ∧ fault.kind = .template ∧ error = .ofFault fault span :=
        isMisplaced_of_checkMarked failed nofun
      exact ⟨fault, span, ⟨0, statement, definition, .here isStatement, defines, isMarked, isMisplaced⟩,
        isTemplate, same⟩
    · refine .bind (.forM fun definition among => ?_) fun _ _ => .of_ok rfl
      obtain ⟨depth, statement, stands, defines⟩ := below.1 among
      split
      · next isMarked =>
        refine .bind (fun error failed => ?_) fun _ _ => .of_ok rfl
        obtain ⟨fault, span, isMisplaced, isTemplate, same⟩ :=
          isMisplaced_of_checkMarked failed fun _ => depth.succ_pos
        exact ⟨fault, span, ⟨depth + 1, statement, definition, stands, defines, isMarked, isMisplaced⟩,
          isTemplate, same⟩
      · exact .of_ok rfl

/-- Where nested definitions pass, none of them is marked. -/
theorem isMarked_of_checkNested {levels : List (List Definition)}
    (checked : Definition.checkNested levels = .ok ()) {definition : Definition}
    (among : definition ∈ levels.flatten) : definition.isMarked = false := by
  have passed := Except.eq_ok_of_mem_forM checked among
  rw [Bool.eq_false_iff]
  intro isMarked
  rw [if_pos isMarked] at passed
  cases definition <;> exact nomatch passed

/-- Where there are marked classes, no marked definition is misplaced. -/
theorem not_misplaces_of_markedClasses {module : Module} {classes : List ClassDefinition}
    (marked : module.markedClasses = .ok classes) (fault : Fault) (span : Span) :
    ¬module.Misplaces fault span := by
  rintro ⟨depth, statement, definition, stands, defines, isMarked, isMisplaced⟩
  have top := head?_definitionLevelsOf module
  have below := @mem_tail_definitionLevelsOf definition module
  have anywhere := (mem_flatten_definitionLevelsOf module).2 ⟨depth, statement, stands, defines⟩
  unfold markedClasses at marked
  split at marked
  · next none =>
    rw [none] at anywhere
    exact nomatch anywhere
  · next level nested levels =>
    rw [levels, List.head?_cons, Option.getD_some] at top
    rw [levels, List.tail_cons] at below
    obtain ⟨found, checked, marked⟩ := Except.exists_of_bind_eq_ok marked
    obtain ⟨_, passed, -⟩ := Except.exists_of_bind_eq_ok marked
    cases stands with
    | here among =>
      have isTop : definition ∈ level.filter Definition.isMarked :=
        List.mem_filter.2 ⟨top ▸ List.mem_filterMap.2 ⟨statement, among, defines⟩, isMarked⟩
      obtain ⟨_, -, accepted⟩ := exists_mem_of_mapM checked isTop
      cases isMisplaced with
      | function => exact nomatch accepted
      | nested deep => exact absurd deep (Nat.lt_irrefl 0)
    | inside among isBlock deeper =>
      have nestedToo := below.2 ⟨_, statement, .inside among isBlock deeper, defines⟩
      exact absurd isMarked (by simp [isMarked_of_checkNested passed nestedToo])

/-! ### Marked classes -/

/-- All marked definitions are classes at the top. -/
def IsOrderly (module : Module) : Prop :=
  ∀ fault span, ¬module.Misplaces fault span

theorem markedClasses_eq_ok_iff {module : Module} {classes : List ClassDefinition} :
    module.markedClasses = .ok classes ↔ module.IsOrderly ∧ classes = module.markedTop := by
  constructor
  · exact fun marked => ⟨not_misplaces_of_markedClasses marked, eq_markedTop marked⟩
  · rintro ⟨orderly, rfl⟩
    cases found : module.markedClasses with
    | error error =>
      obtain ⟨fault, span, misplaces, -⟩ := module.failsOnly_misplaced error found
      exact absurd misplaces (orderly fault span)
    | ok classes => rw [eq_markedTop found]

/-- No definition in the module is marked, however deep it stands. -/
def IsUnmarked (module : Module) : Prop :=
  ∀ depth statement definition, StandsAt depth module statement → statement.definition? = some definition →
    definition.isMarked = false

instance (module : Module) : Decidable module.IsUnmarked :=
  decidable_of_iff ((definitionLevelsOf module).flatten.all (!·.isMarked) = true) <| by
    simp only [List.all_eq_true, mem_flatten_definitionLevelsOf, Bool.not_eq_true']
    exact ⟨fun all depth statement definition stands defines => all definition ⟨depth, statement, stands, defines⟩,
      fun unmarked definition ⟨depth, statement, stands, defines⟩ =>
        unmarked depth statement definition stands defines⟩

/-- A module without marked definitions has no marked classes. -/
theorem markedClasses_of_unmarked {module : Module} (unmarked : module.IsUnmarked) :
    module.markedClasses = .ok [] := by
  refine markedClasses_eq_ok_iff.2 ⟨?_, Eq.symm (List.filter_eq_nil_iff.2 fun definition among isMarked => ?_)⟩
  · rintro fault span ⟨depth, statement, definition, stands, defines, isMarked, -⟩
    exact Bool.false_ne_true ((unmarked depth statement definition stands defines).symm.trans isMarked)
  · obtain ⟨statement, isStatement, isClass⟩ := List.mem_filterMap.1 among
    have defines : statement.definition? = some (.ofClass definition) := by
      cases statement <;> cases isClass
      rfl
    exact Bool.false_ne_true ((unmarked 0 statement _ (.here isStatement) defines).symm.trans isMarked)

/-- In a module whose statements stand one below the other: if a function is marked anywhere, or a class in a
block of any statement, then this is the fault of one of these; else the marked classes are those of the
statements at the top that have a marker, each once and one below the other. -/
theorem markedClasses_of_ordered {module : Module}
    (ordered : module.Pairwise fun first second => first.span.start.line ≤ second.span.start.line) :
    ((∃ fault span, module.Misplaces fault span) →
      ∃ fault span, module.Misplaces fault span ∧ fault.kind = .template ∧
        module.markedClasses = .error (.ofFault fault span)) ∧
    ((¬∃ fault span, module.Misplaces fault span) →
      ∃ classes, module.markedClasses = .ok classes ∧
        classes = (module.filterMap Stmt.class?).filter (fun definition =>
          definition.decorators.any Expr.isMarker) ∧
        classes.Pairwise fun first second => first.span.start.line ≤ second.span.start.line) := by
  constructor
  · rintro ⟨fault, span, misplaces⟩
    cases found : module.markedClasses with
    | ok classes => exact absurd misplaces (not_misplaces_of_markedClasses found fault span)
    | error error =>
      obtain ⟨fault, span, misplaces, isTemplate, rfl⟩ := module.failsOnly_misplaced error found
      exact ⟨fault, span, misplaces, isTemplate, rfl⟩
  · intro allPlaced
    cases found : module.markedClasses with
    | error error =>
      obtain ⟨fault, span, misplaces, -⟩ := module.failsOnly_misplaced error found
      exact absurd ⟨fault, span, misplaces⟩ allPlaced
    | ok classes =>
      refine ⟨classes, rfl, eq_markedTop found, ?_⟩
      rw [eq_markedTop found]
      refine List.Pairwise.filter _ (List.Pairwise.filterMap _ ?_ ordered)
      intro first second above definition isClass other isOther
      rw [(Stmt.span_of_class? isClass).1, (Stmt.span_of_class? isOther).1]
      exact above

/-- A module with a marked class at the top, and one in a conditional in a handler in a function. -/
def markedInHandler : Module :=
  let handled : List Stmt :=
    [.conditional ⟨⟨9, 8⟩, ⟨12, 21⟩⟩ (.name ⟨⟨9, 11⟩, ⟨9, 12⟩⟩ "c")
      [.classDefinition ⟨⟨11, 12⟩, ⟨12, 20⟩⟩ "Q" [] [] [.pass ⟨⟨12, 16⟩, ⟨12, 20⟩⟩]
        [.name ⟨⟨10, 13⟩, ⟨10, 17⟩⟩ "diff"]] []]
  [.classDefinition ⟨⟨2, 0⟩, ⟨3, 8⟩⟩ "P" [] [] [.pass ⟨⟨3, 4⟩, ⟨3, 8⟩⟩] [.name ⟨⟨1, 1⟩, ⟨1, 5⟩⟩ "diff"],
    .function ⟨⟨5, 0⟩, ⟨12, 20⟩⟩ false "f" (.parameters [] [] none [] none)
      [.tryBlock ⟨⟨6, 4⟩, ⟨12, 20⟩⟩ false [.pass ⟨⟨7, 8⟩, ⟨7, 12⟩⟩] [.handler none none handled] [] []] [] none]

/-- The class in the handler is found, and is the fault. -/
theorem markedClasses_of_markedInHandler :
    (markedInHandler.Pairwise fun first second => first.span.start.line ≤ second.span.start.line) ∧
    ∃ fault span, markedInHandler.Misplaces fault span ∧ fault.kind = .template ∧
      markedInHandler.markedClasses = .error (.ofFault fault span) := by
  have ordered : markedInHandler.Pairwise fun first second => first.span.start.line ≤ second.span.start.line := by
    decide
  have stands : StandsAt 3 markedInHandler _ :=
    .inside (List.mem_cons_of_mem _ List.mem_cons_self) List.mem_cons_self
      (.inside List.mem_cons_self (List.mem_cons_of_mem _ List.mem_cons_self)
        (.inside List.mem_cons_self List.mem_cons_self (.here List.mem_cons_self)))
  have misplaces : markedInHandler.Misplaces (.nestedClass "Q") ⟨⟨11, 12⟩, ⟨12, 20⟩⟩ :=
    ⟨3, _, _, stands, rfl, by decide, .nested (by decide)⟩
  exact ⟨ordered, (markedClasses_of_ordered ordered).1 ⟨_, _, misplaces⟩⟩

end Module

end DifferenceTypes
