import DifferenceTypes.Proofs.Evaluation.ClassBody
import DifferenceTypes.Proofs.Record.Declared
import DifferenceTypes.Proofs.Session.Course
import DifferenceTypes.Proofs.Template.Fields
import DifferenceTypes.Proofs.Template.Reading

/-!
# Fields of marked record classes

The generator finds the fields of a class by the spelling of its declarations; a record class has
its fields from what the declared types mean when the class is made one. Both go through the same
declarations in the same order, if each of them stands directly in the body and declares a bare name
of its own. So the fields are the same exactly if every type that is spelled like one that makes no
field makes none, and every other one does.
-/

namespace DifferenceTypes

open Evaluation (IsDerivedBy callWithin run)
open Run (outcome)

variable {κ σ τ : Type}

/-! ### Spelling -/

namespace Expr

theorem literalText?_map (change : σ → τ) (expression : Expr σ) :
    (expression.map change).literalText? = expression.literalText? := by
  cases expression with
  | constant _ value => cases value <;> rfl
  | _ => rfl

theorem tailName_map (change : σ → τ) (expression : Expr σ) :
    (expression.map change).tailName = expression.tailName := by
  cases expression <;> rfl

theorem baseName_map (change : σ → τ) (expression : Expr σ) :
    (expression.map change).baseName = expression.baseName := by
  cases expression with
  | subscript _ value _ => exact value.tailName_map change
  | _ => rfl

/-- Whether a type is spelled like one that makes no field does not depend on where it stands. -/
theorem isFieldless_map (change : σ → τ) (type : Expr σ) :
    (type.map change).isFieldless = type.isFieldless := by
  rw [isFieldless, isFieldless, literalText?_map, baseName_map]

end Expr

/-- The names that statements declare, and how their types are spelled. -/
def spelledNames (statements : List (Stmt σ)) : List (String × Bool) :=
  statements.filterMap fun statement =>
    statement.declared?.map fun declared => (declared.1, declared.2.isFieldless)

theorem spelledNames_contents (statements : List (Stmt σ)) :
    spelledNames (Stmt.contents statements) = spelledNames statements := by
  have same (statement : Stmt σ) : (statement.map fun _ => ()).declared? =
      statement.declared?.map fun declared => (declared.1, declared.2.map fun _ => ()) := by
    cases statement with
    | declare _ target _ _ _ => cases target <;> rfl
    | _ => rfl
  induction statements with
  | nil => rfl
  | cons first rest inductionHypothesis =>
    rw [spelledNames, spelledNames] at inductionHypothesis ⊢
    rw [Stmt.contents, Stmt.mapAll, List.filterMap_cons, List.filterMap_cons, same]
    cases first.declared? with
    | none => exact inductionHypothesis
    | some declared =>
      simp only [Option.map_some, Expr.isFieldless_map]
      exact congrArg _ inductionHypothesis

/-- The names that a body declares are those that it spells, as they are kept. -/
theorem declaredNames_eq (owner : Option String) (body : List (Stmt Unit)) :
    declaredNames owner body = (spelledNames body).map fun entry => Frame.keptName owner entry.1 := by
  induction body with
  | nil => rfl
  | cons first rest inductionHypothesis =>
    rw [declaredNames, spelledNames] at inductionHypothesis ⊢
    rw [List.filterMap_cons, List.filterMap_cons]
    cases first.declared? with
    | none => exact inductionHypothesis
    | some declared => exact congrArg _ inductionHypothesis

/-- A statement declares a field if it declares a name and its type is spelled like that of one. -/
theorem Stmt.name_field? (statement : Stmt) : statement.field?.map (·.name) =
    ((statement.declared?.map fun declared => (declared.1, declared.2.isFieldless)).filter
      (!·.2)).map (·.1) := by
  cases statement with
  | declare _ target type _ _ =>
    cases target with
    | name _ identifier =>
      cases spelled : type.isFieldless <;> simp [field?, declared?, spelled, Option.filter]
    | _ => rfl
  | _ => rfl

/-- The fields that a body declares are the names whose types are spelled like those of fields. -/
theorem ClassDefinition.names_declarations (definition : ClassDefinition) :
    definition.declarations.map (·.name) =
      ((spelledNames definition.body).filter (!·.2)).map (·.1) := by
  rw [declarations, spelledNames, List.map_filterMap, List.filter_filterMap, List.map_filterMap]
  exact congrArg (List.filterMap · definition.body) (funext Stmt.name_field?)

/-! ### Fields of blocks -/

namespace ClassDefinition

/-- Only a named class declares fields. -/
theorem declarations_of_shape (definition : ClassDefinition) {shape : Shape}
    (given : definition.shape = .ok shape) (unnamed : shape ≠ .named) :
    definition.declarations = [] := by
  unfold ClassDefinition.shape at given
  obtain ⟨_, -, given⟩ := Except.exists_of_bind_eq_ok given
  split at given
  · next empty => exact empty
  · exact nomatch given
  · exact nomatch given
  · next empty => exact empty
  · cases given
    exact absurd rfl unnamed

end ClassDefinition

namespace Block

/-- The names of the fields that a block knows by name: those of a positional class have none. -/
def fieldNames (block : Block) : List Text :=
  match block.shape with
  | .positional => []
  | _ => block.fields.map (·.name)

/-- The block of a class knows the names whose types are spelled like those of fields, and none of
them is private. -/
theorem fieldNames_of_ofClass {text : Text} {display : List Text} {definition : ClassDefinition}
    {block : Block} (made : ofClass text display definition = .ok block) :
    block.fieldNames = ((spelledNames definition.body).filter (!·.2)).map (Text.ofString ·.1) ∧
      ∀ entry ∈ spelledNames definition.body, entry.2 = false → isPrivateName entry.1 = false := by
  obtain ⟨shaped, given⟩ := ofClass_eq_ok made
  have names := definition.names_declarations
  have declared : block.fieldNames = definition.declarations.map (Text.ofString ·.name) ∧
      ∀ declaration ∈ definition.declarations, isPrivateName declaration.name = false := by
    unfold fieldNames
    cases shape : block.shape with
    | named =>
      rw [shape] at given
      exact Field.names_of_areDeclared (Field.ofDeclarations_eq_ok given).1
    | positional =>
      simp [definition.declarations_of_shape shaped (by simp [shape])]
    | unit =>
      rw [shape] at given
      have none : block.fields = [] := (Except.ok.inj given).symm
      simp [none, definition.declarations_of_shape shaped (by simp [shape])]
  refine ⟨?_, fun entry among spelled => ?_⟩
  · have all := congrArg (List.map Text.ofString) names
    rw [List.map_map, List.map_map] at all
    exact declared.1.trans all
  · have known : entry.1 ∈ definition.declarations.map (·.name) := by
      rw [names]
      exact List.mem_map_of_mem (List.mem_filter.2 ⟨among, by simp [spelled]⟩)
    obtain ⟨declaration, declares, same⟩ := List.mem_map.1 known
    exact same ▸ declared.2 declaration declares

end Block

/-! ### Fields of record classes -/

/-- A name that is private nowhere is kept as it is. -/
theorem Frame.keptName_of_public (owner : Option String) {name : String}
    (isPublic : isPrivateName name = false) : keptName owner name = name := by
  have unmarked : isPrivate name = false := by
    simp only [isPrivateName, isPrivate] at isPublic ⊢
    rw [isPublic, Bool.false_and]
  unfold keptName
  split
  · simp [unmarked]
  · rfl

/-- What is chosen from a list whose elements differ is the same exactly if the choices are. -/
theorem map_filter_eq_iff {α β : Type} {list : List α} {name : α → β}
    (distinct : (list.map name).Nodup) (first second : α → Bool) :
    (list.filter first).map name = (list.filter second).map name ↔
      ∀ element ∈ list, first element = second element := by
  refine ⟨fun same element among => ?_, fun same => by rw [List.filter_congr same]⟩
  have chosen (choice : α → Bool) :
      name element ∈ (list.filter choice).map name ↔ choice element = true := by
    refine ⟨fun there => ?_, fun holds => List.mem_map_of_mem (List.mem_filter.2 ⟨among, holds⟩)⟩
    obtain ⟨other, isChosen, equal⟩ := List.mem_map.1 there
    obtain ⟨otherAmong, holds⟩ := List.mem_filter.1 isChosen
    exact List.inj_on_of_nodup_map distinct otherAmong among equal ▸ holds
  rw [Bool.eq_iff_iff, ← chosen first, ← chosen second, same]

theorem ofString_injective : Function.Injective Text.ofString := by
  intro first second same
  have characters := congrArg Text.characters? same
  exact String.ext (by simpa [Text.ofString] using characters)

/-- Names that are kept as they are spelled stand side by side with their spelling. -/
theorem kept_of_mem_zip {spelled : List (String × Bool)} {annotations : Attributes}
    {owner : Option String}
    (names : annotations.map (·.1) = spelled.map fun entry => Frame.keptName owner entry.1) :
    ∀ pair ∈ spelled.zip annotations, pair.2.1 = Frame.keptName owner pair.1.1 := by
  induction spelled generalizing annotations with
  | nil => simp
  | cons first rest inductionHypothesis =>
    cases annotations with
    | nil => simp
    | cons entry others =>
      rw [List.map_cons, List.map_cons, List.cons.injEq] at names
      intro pair among
      rcases List.mem_cons.1 among with rfl | behind
      · exact names.1
      · exact inductionHypothesis names.2 pair behind

/-- What makes fields among the declarations of a class is what is spelled like it exactly if this is
so for each of them. -/
theorem fieldNames_eq_iff {spelled : List (String × Bool)} {annotations : Attributes}
    {owner : Option String} {makes : Value → Bool}
    (names : annotations.map (·.1) = spelled.map fun entry => Frame.keptName owner entry.1)
    (distinct : (annotations.map (·.1)).Nodup)
    (isPublic : ∀ entry ∈ spelled, entry.2 = false → isPrivateName entry.1 = false) :
    ((annotations.filter (makes ·.2)).map (·.1)).map Text.ofString =
        (spelled.filter (!·.2)).map (Text.ofString ·.1) ↔
      ∀ pair ∈ spelled.zip annotations, makes pair.2.2 = !pair.1.2 := by
  have lengths : spelled.length = annotations.length := by
    simpa using (congrArg List.length names).symm
  have first := List.map_fst_zip (Nat.le_of_eq lengths)
  have second := List.map_snd_zip (Nat.le_of_eq lengths.symm)
  have kept := kept_of_mem_zip names
  have made : (annotations.filter (makes ·.2)).map (·.1) =
      ((spelled.zip annotations).filter (makes ·.2.2)).map (·.2.1) := by
    rw [← second, List.filter_map, List.map_map, second]
    rfl
  have known : (spelled.filter (!·.2)).map (Text.ofString ·.1) =
      (((spelled.zip annotations).filter (!·.1.2)).map (·.2.1)).map Text.ofString := by
    rw [← first, List.filter_map, List.map_map, List.map_map, first]
    refine List.map_congr_left fun pair among => ?_
    obtain ⟨among, spelledSo⟩ := List.mem_filter.1 among
    have unmarked : pair.1.2 = false := by simpa using spelledSo
    simp only [Function.comp_apply]
    rw [kept pair among,
      Frame.keptName_of_public owner (isPublic pair.1 (List.of_mem_zip among).1 unmarked)]
  rw [made, known, (List.map_injective_iff.2 ofString_injective).eq_iff]
  refine map_filter_eq_iff ?_ _ _
  rwa [← second, List.map_map] at distinct

namespace Template

/-- A record class that comes from a marked class of a template, whatever is run behind its class
statement: its fields are those of its declared types that made fields in the world in which it was
made a record class. They are the fields that the generator knows exactly if every type that is
spelled like one of a field made one, and no other type did. -/
theorem fieldNames_of_markedClass {behaviour : Contract.Behaviour κ}
    (behaves : behaviour.Follows World.Continues) (depth : Nat) {text : Text} {template : Template}
    (accepted : read text = .ok template) {classes : List ClassDefinition}
    (marked : template.module.markedClasses = .ok classes) {definition : ClassDefinition}
    {block : Block} (among : (definition, block) ∈ classes.zip template.blocks)
    (placed : Placement.arePlaced .ofClass (Stmt.contents definition.body) = true)
    (plain : (Stmt.contents definition.body).all Stmt.isPlain = true)
    (distinct : (declaredNames (some definition.identifier) (Stmt.contents definition.body)).Nodup)
    {bases : List (Expr Unit)} {keywords : List (Keyword Unit)} {decorators : List (Expr Unit)}
    {frame between : Frame} {world after : World κ} {flow : Evaluation.Flow}
    (ran : outcome (StateT.run (run (callWithin behaviour depth) (.classDefinition ()
      definition.identifier bases keywords (Stmt.contents definition.body) decorators)) frame)
        world = (.ok (flow, between), after)) :
    ∃ index record derived, derived.Continues after ∧
      IsDerivedBy (callWithin behaviour depth) definition.identifier
        (Stmt.contents definition.body) index record derived ∧
      ∀ later names last, after.Continues later →
        (∀ base ∈ record.bases, ∃ kind, base = .builtin kind) →
        outcome (Record.fieldNames (.ofClass (.defined index))) later = (.ok names, last) →
        ∃ making, derived.Keeps making ∧ making.Keeps later ∧
          names = (record.annotations.filter (Record.makesField making ·.2)).map (·.1) ∧
          (names.map Text.ofString = block.fieldNames ↔
            ∀ pair ∈ (spelledNames definition.body).zip record.annotations,
              Record.makesField making pair.2.2 = !pair.1.2) := by
  obtain ⟨classes', again, made⟩ := read_eq_ok accepted
  cases again.symm.trans marked
  obtain ⟨known, isPublic⟩ := Block.fieldNames_of_ofClass (ofClass_of_mem_zip made among)
  obtain ⟨index, record, derived, isDerived, applied, value, decorated, inside, ranDecorators, bound⟩ :=
    Evaluation.exists_isDerivedBy ran
  have calls : Caller.Follows World.Continues (callWithin behaviour depth) :=
    Evaluation.follows_callWithin behaves depth
  have goesOn : derived.Continues after := by
    have decorates := Evaluation.follows_decorate calls (.ofClass (.defined index)) applied derived
    rw [ranDecorators] at decorates
    have binds : Evaluation.Follows World.Continues (fun _ _ => True)
        (Evaluation.setName definition.identifier value : Evaluation κ Unit) :=
      Evaluation.follows_setName _ _
    have sets := binds.worlds inside decorated
    rw [bound] at sets
    exact decorates.trans sets
  have names : record.annotations.map (·.1) =
      (spelledNames definition.body).map fun entry =>
        Frame.keptName (some definition.identifier) entry.1 := by
    rw [isDerived.names rfl placed plain distinct, declaredNames_eq, spelledNames_contents]
  refine ⟨index, record, derived, goesOn, isDerived, fun later found last continues builtin named => ?_⟩
  obtain ⟨behind, line, allBuiltin⟩ := isDerived.line builtin
  have apart : (record.annotations.map (·.1)).Nodup := by
    rwa [isDerived.names rfl placed plain distinct]
  obtain ⟨making, before, behindIt, rfl⟩ := Record.fieldNames_of_continues (goesOn.trans continues)
    isDerived.found isDerived.unmade line allBuiltin apart named
  refine ⟨making, before, behindIt, rfl, ?_⟩
  rw [known]
  exact fieldNames_eq_iff names apart isPublic

/-- The class statement that a marked class leaves behind, run where nothing but two modules was
imported. -/
def runAlone (definition : ClassDefinition) :
    Except Failure (Evaluation.Flow × Frame) × World SessionContract :=
  outcome (StateT.run (run (callWithin SessionContract.behaviour 1) (.classDefinition ()
    definition.identifier (definition.bases.map Expr.content) []
    (Stmt.contents definition.body)
    ((definition.decorators.filter (!·.isMarker)).map Expr.content))) Frame.ofModule)
    { World.empty with
      module := [("dataclasses", .library .dataclasses), ("typing", .library .typing)] }

/-- The names of the fields of the class that a marked class becomes. -/
def namesAlone (definition : ClassDefinition) : Option (List String) :=
  (outcome (Record.fieldNames (.ofClass (.defined 0))) (runAlone definition).2).1.toOption

/-- A record class with a field and a name that belongs to the class. -/
def countedTemplate : Text :=
  "@diff\n@dataclasses.dataclass\nclass P:\n    x: int\n    n: typing.ClassVar\n"

/-- The types of this record class mean what they are spelled like: its only field is the one that
the generator knows. -/
theorem fieldNames_of_countedTemplate :
    ∃ template classes definition block, read countedTemplate = .ok template ∧
      template.module.markedClasses = .ok classes ∧
      (definition, block) ∈ classes.zip template.blocks ∧
      namesAlone definition = some ["x"] ∧ block.fieldNames = ["x"].map Text.ofString ∧
      ∃ (making : World SessionContract) (record : ClassRecord),
        ["x"] = (record.annotations.filter (Record.makesField making ·.2)).map (·.1) ∧
        ∀ pair ∈ (spelledNames definition.body).zip record.annotations,
          Record.makesField making pair.2.2 = !pair.1.2 := by
  obtain ⟨template, classes, definition, block, accepted, marked, among, holds⟩ :=
    exists_markedClass (fun definition block =>
      (runAlone definition).1.toOption.isSome &&
      (runAlone definition).2.classes.map (·.bases) == #[[.builtin .object]] &&
      namesAlone definition == some ["x"] && block.fieldNames == ["x"].map Text.ofString &&
      Placement.arePlaced .ofClass (Stmt.contents definition.body) &&
      (Stmt.contents definition.body).all Stmt.isPlain &&
      decide (declaredNames (some definition.identifier) (Stmt.contents definition.body)).Nodup)
      (show (read countedTemplate).toOption.map _ = some true by decide +kernel)
  simp only [Bool.and_eq_true, beq_iff_eq, decide_eq_true_eq] at holds
  obtain ⟨⟨⟨⟨⟨⟨succeeds, bases⟩, names⟩, known⟩, placed⟩, plain⟩, distinct⟩ := holds
  rcases ran : runAlone definition with ⟨failure | ⟨flow, between⟩, after⟩
  · exact nomatch ran ▸ succeeds
  rw [ran] at bases
  obtain ⟨index, record, derived, goesOn, isDerived, fields⟩ :=
    fieldNames_of_markedClass SessionContract.follows_behaviour 1 accepted marked among placed plain
      distinct ran
  obtain ⟨kept, there, same⟩ := goesOn.keeps.classes isDerived.found
  have only := congrArg (·[index]?) bases
  simp only [Array.getElem?_map, there, Option.map_some] at only
  cases index with
  | succ index => simp at only
  | zero =>
    have derivedFrom : record.bases = [.builtin .object] := by
      rw [← same.bases]
      simpa using only
    have named : (outcome (Record.fieldNames (.ofClass (.defined 0))) after).1.toOption =
        some ["x"] := by
      rw [← names, namesAlone, ran]
    rcases result : outcome (Record.fieldNames (.ofClass (.defined 0))) after with
      ⟨failure | found, last⟩
    · exact nomatch result ▸ named
    rw [result] at named
    cases named
    obtain ⟨making, -, -, made, exactly⟩ := fields after ["x"] last (.refl after)
      (by simp [derivedFrom]) result
    exact ⟨template, classes, definition, block, accepted, marked, among, names, known, making,
      record, made, exactly.1 known.symm⟩

/-- A record class that declares a name in parentheses. -/
def parenthesizedTemplate : Text :=
  "@diff\n@dataclasses.dataclass\nclass P:\n    (x): int\n    y: int\n"

/-- A name in parentheses is no field of the record class, but the generator knows it as one. -/
theorem fieldNames_of_parenthesizedTemplate :
    ∃ template classes definition block, read parenthesizedTemplate = .ok template ∧
      template.module.markedClasses = .ok classes ∧
      (definition, block) ∈ classes.zip template.blocks ∧
      namesAlone definition = some ["y"] ∧ block.fieldNames = ["x", "y"].map Text.ofString := by
  obtain ⟨template, classes, definition, block, accepted, marked, among, holds⟩ :=
    exists_markedClass (fun definition block =>
      namesAlone definition == some ["y"] && block.fieldNames == ["x", "y"].map Text.ofString)
      (show (read parenthesizedTemplate).toOption.map _ = some true by decide +kernel)
  rw [Bool.and_eq_true, beq_iff_eq, beq_iff_eq] at holds
  exact ⟨template, classes, definition, block, accepted, marked, among, holds⟩

end Template

end DifferenceTypes
