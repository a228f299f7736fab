import DifferenceTypes.Generation.Splice
import DifferenceTypes.Proofs.Syntax.Places
import DifferenceTypes.Proofs.Template.Reading

/-!
# Where blocks come from

Each block of a template comes from a marked class at the top of the module. The lines that a block takes
out and the line that it comes behind are lines of this class and of its markers, so a block leaves the
lines above its class as they are (`Template.isUntouched`).
-/

namespace DifferenceTypes

/-! ### Marked classes -/

/-- The first of levels side by side. -/
theorem head?_besides {α : Type} (first second : List (List α)) :
    (besides first second).head?.getD [] = first.head?.getD [] ++ second.head?.getD [] := by
  cases first with
  | nil => rfl
  | cons level first =>
    cases second with
    | nil => simp [besides]
    | cons other second => rfl

/-- At the top stand the definitions that are statements of the module. -/
theorem head?_definitionLevelsOf (statements : List Stmt) :
    (definitionLevelsOf statements).head?.getD [] = statements.filterMap Stmt.definition? := by
  induction statements with
  | nil => rfl
  | cons first rest inductionHypothesis =>
    rw [definitionLevelsOf, head?_besides, inductionHypothesis]
    cases first <;> rfl

/-- What is checked one by one comes from what was there. -/
theorem exists_of_mem_mapM {α β ε : Type} {function : α → Except ε β} {values : List α}
    {results : List β} (mapped : values.mapM function = .ok results) {result : β}
    (among : result ∈ results) : ∃ value ∈ values, function value = .ok result := by
  induction values generalizing results with
  | nil =>
    cases mapped
    exact nomatch among
  | cons value rest inductionHypothesis =>
    rw [List.mapM_cons] at mapped
    obtain ⟨first, here, mapped⟩ := Except.exists_of_bind_eq_ok mapped
    obtain ⟨others, later, same⟩ := Except.exists_of_bind_eq_ok mapped
    cases same
    rcases List.mem_cons.1 among with rfl | behind
    · exact ⟨value, List.mem_cons_self, here⟩
    · obtain ⟨other, inside, isResult⟩ := inductionHypothesis later behind
      exact ⟨other, List.mem_cons_of_mem _ inside, isResult⟩

/-- Each of the values that are checked one by one has a result. -/
theorem exists_mem_of_mapM {α β ε : Type} {function : α → Except ε β} {values : List α}
    {results : List β} (mapped : values.mapM function = .ok results) {value : α}
    (among : value ∈ values) : ∃ result ∈ results, function value = .ok result := by
  induction values generalizing results with
  | nil => exact nomatch among
  | cons first rest inductionHypothesis =>
    rw [List.mapM_cons] at mapped
    obtain ⟨result, here, mapped⟩ := Except.exists_of_bind_eq_ok mapped
    obtain ⟨others, later, same⟩ := Except.exists_of_bind_eq_ok mapped
    cases same
    rcases List.mem_cons.1 among with rfl | behind
    · exact ⟨result, List.mem_cons_self, here⟩
    · obtain ⟨other, inside, isResult⟩ := inductionHypothesis later behind
      exact ⟨other, List.mem_cons_of_mem _ inside, isResult⟩

/-- A marked class is a statement of the module. -/
theorem Module.exists_of_mem_markedClasses {module : Module} {classes : List ClassDefinition}
    (marked : module.markedClasses = .ok classes) {definition : ClassDefinition}
    (among : definition ∈ classes) :
    ∃ statement ∈ module, statement.definition? = some (.ofClass definition) ∧
      (Definition.ofClass definition).isMarked = true := by
  have top := head?_definitionLevelsOf module
  unfold markedClasses at marked
  split at marked
  · cases marked
    exact nomatch among
  · next level nested levels =>
    rw [levels, List.head?_cons, Option.getD_some] at top
    obtain ⟨found, checked, marked⟩ := Except.exists_of_bind_eq_ok marked
    obtain ⟨_, -, same⟩ := Except.exists_of_bind_eq_ok marked
    cases same
    obtain ⟨other, isTop, same⟩ := exists_of_mem_mapM checked among
    obtain ⟨isTop, isMarked⟩ := List.mem_filter.1 isTop
    obtain rfl : other = .ofClass definition := by
      cases other with
      | ofClass =>
        cases same
        rfl
      | ofFunction => exact nomatch same
    rw [top] at isTop
    obtain ⟨statement, inside, defines⟩ := List.mem_filterMap.1 isTop
    exact ⟨statement, inside, defines, isMarked⟩

/-- A marker has its sign before it on its first line. -/
theorem Marker.column_of_lines {display : List Text} {place : Place} {found : Int × Int}
    (isFound : lines display place = .ok found) : found.1 = place.line ∧ place.column ≠ 0 := by
  unfold lines at isFound
  obtain ⟨line, -, isFound⟩ := Except.exists_of_bind_eq_ok isFound
  obtain ⟨before, cut, isFound⟩ := Except.exists_of_bind_eq_ok isFound
  dsimp only at isFound
  split at isFound
  · exact nomatch isFound
  · next sign =>
    refine ⟨?_, fun none => ?_⟩
    · obtain ⟨_, -, isFound⟩ := Except.exists_of_bind_eq_ok isFound
      obtain ⟨_, -, isFound⟩ := Except.exists_of_bind_eq_ok isFound
      split at isFound
      · exact nomatch isFound
      · cases isFound
        rfl
    · rw [none] at cut
      obtain rfl : before = [] := by
        unfold Text.upToColumn at cut
        cases encoded : Utf8.encode? line with
        | none =>
          rw [encoded] at cut
          exact nomatch cut
        | some bytes =>
          have start : bytes.take (Text.boundary bytes.length 0) = [] := by simp [Text.boundary]
          simp only [encoded, start] at cut
          exact (Except.ok.inj cut).symm
      exact sign (by decide)

namespace Block

theorem exists_of_mem_ofClasses {text : Text} {display taken : List Text} {classes : List ClassDefinition}
    {blocks : List Block} (made : ofClasses text display taken classes = .ok blocks) {block : Block}
    (among : block ∈ blocks) : ∃ definition ∈ classes, ofClass text display definition = .ok block := by
  induction classes generalizing taken blocks with
  | nil =>
    cases made
    exact nomatch among
  | cons definition rest inductionHypothesis =>
    unfold ofClasses at made
    obtain ⟨first, here, made⟩ := Except.exists_of_bind_eq_ok made
    obtain ⟨_, -, made⟩ := Except.exists_of_bind_eq_ok made
    obtain ⟨others, later, same⟩ := Except.exists_of_bind_eq_ok made
    cases same
    rcases List.mem_cons.1 among with rfl | behind
    · exact ⟨definition, List.mem_cons_self, here⟩
    · obtain ⟨other, inside, isBlock⟩ := inductionHypothesis later behind
      exact ⟨other, List.mem_cons_of_mem _ inside, isBlock⟩

/-- Where a class and its markers stand below a line, its block does not touch the lines up to there. -/
theorem isUntouched_of_ofClass {text : Text} {display : List Text} {definition : ClassDefinition}
    {block : Block} (made : ofClass text display definition = .ok block) {above last : Nat}
    (below : definition.span.IsWithin above last)
    (markers : ∀ decorator ∈ definition.decorators, decorator.span.IsWithin above last) {number : Nat}
    (positive : 1 ≤ number) (inside : number ≤ above) :
    block.stop ≠ (number : Int) ∧ ∀ lines ∈ block.markerLines, (number : Int) < lines.1 := by
  unfold ofClass at made
  obtain ⟨options, -, made⟩ := Except.exists_of_bind_eq_ok made
  obtain ⟨shape, -, made⟩ := Except.exists_of_bind_eq_ok made
  obtain ⟨fields, -, made⟩ := Except.exists_of_bind_eq_ok made
  obtain ⟨markerLines, found, made⟩ := Except.exists_of_bind_eq_ok made
  cases made
  constructor
  · rcases below.stop with none | behind
    · dsimp only
      rw [none]
      have zero : (default : Position).line = 0 := rfl
      omega
    · dsimp only
      omega
  · intro lines among
    obtain ⟨marker, isMarker, isFound⟩ := exists_of_mem_mapM found among
    obtain ⟨same, sign⟩ := Marker.column_of_lines isFound
    rw [same]
    rcases (markers marker (List.mem_filter.1 isMarker).1).start with none | behind
    · refine absurd ?_ sign
      simp only [Marker.Place.ofSpan, none]
      rfl
    · simp only [Marker.Place.ofSpan]
      omega

end Block

namespace Template

/-- Each block of a template that is read comes from a marked class. -/
theorem exists_of_mem_blocks {text : Text} {template : Template} (accepted : read text = .ok template)
    {block : Block} (among : block ∈ template.blocks) :
    ∃ statement ∈ template.module, ∃ definition, statement.definition? = some (.ofClass definition) ∧
      (Definition.ofClass definition).isMarked = true ∧
      Block.ofClass text text.displayLines definition = .ok block := by
  obtain ⟨classes, marked, made⟩ := read_eq_ok accepted
  obtain ⟨definition, isClass, isBlock⟩ := Block.exists_of_mem_ofClasses made among
  obtain ⟨statement, inside, defines, isMarked⟩ := Module.exists_of_mem_markedClasses marked isClass
  exact ⟨statement, inside, definition, defines, isMarked, isBlock⟩

/-- No block takes lines out above a line or comes behind one of them. -/
def LeavesUpTo (template : Template) (count : Nat) : Prop :=
  ∀ number, 1 ≤ number → number ≤ count →
    template.isMarkerLine number = false ∧ template.blockAt? number = none

/-- Where all marked classes stand below a line, the lines up to there are left alone. -/
theorem leavesUpTo_of_isWithin {text : Text} {template : Template} (accepted : read text = .ok template)
    {count last : Nat} (below : ∀ statement ∈ template.module, ∀ definition,
      statement.definition? = some (.ofClass definition) →
      (Definition.ofClass definition).isMarked = true →
      ∀ span ∈ statement.spans, span.IsWithin count last) :
    template.LeavesUpTo count := by
  intro number positive inside
  have untouched {block : Block} (among : block ∈ template.blocks) :
      block.stop ≠ (number : Int) ∧ ∀ lines ∈ block.markerLines, (number : Int) < lines.1 := by
    obtain ⟨statement, there, definition, defines, isMarked, made⟩ := exists_of_mem_blocks accepted among
    have within := below statement there definition defines isMarked
    have own : statement.spans = definition.span :: definition.decorators.map Expr.span := by
      cases statement with
      | classDefinition =>
        cases defines
        rfl
      | _ => exact nomatch defines
    rw [own] at within
    refine Block.isUntouched_of_ofClass made (within _ List.mem_cons_self) (fun decorator isDecorator => ?_)
      positive inside
    exact within _ (List.mem_cons_of_mem _ (List.mem_map_of_mem isDecorator))
  constructor
  · rw [isMarkerLine, List.any_eq_false]
    intro block among
    rw [Bool.not_eq_true, List.any_eq_false]
    intro lines there
    have later := (untouched among).2 lines there
    simp only [Bool.and_eq_true, decide_eq_true_eq, not_and]
    omega
  · rw [blockAt?, List.find?_eq_none]
    intro block among
    simpa using (untouched among).1

end Template

end DifferenceTypes
