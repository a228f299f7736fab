import DifferenceTypes.Proofs.Evaluation.Calls
import DifferenceTypes.Proofs.Object.Derivation

/-!
# What a record class declares

Whatever is run, the classes and objects of a world stay, and with them what a class was derived
from and what types it declares. A class that is a record class later either was one before, or was
made one in a world in between, from the types that it declares and from what these types meant in
that world.

The fields of a record class without record classes among its ancestors are therefore the names for
which it declares types, in their order, except for the types that marked something else when it was
made a record class.
-/

namespace DifferenceTypes

open Run (Follows outcome)

variable {κ : Type}

/-! ### What stays -/

/-- The classes and objects of a world are still there, with what no change of them touches. -/
structure World.Keeps (earlier later : World κ) : Prop where
  classes : ∀ {index : Nat} {record : ClassRecord}, earlier.classes[index]? = some record →
    ∃ kept, later.classes[index]? = some kept ∧ record.Kept kept
  objects : ∀ {ref : Ref} {object : Object}, earlier.objects[ref]? = some object →
    ∃ kept, later.objects[ref]? = some kept ∧ object.Kept kept

namespace World

theorem Keeps.refl (world : World κ) : world.Keeps world :=
  ⟨fun {_ record} found => ⟨record, found, .refl record⟩,
    fun {_ object} found => ⟨object, found, .refl object⟩⟩

theorem Keeps.trans {first second third : World κ} (earlier : first.Keeps second)
    (later : second.Keeps third) : first.Keeps third where
  classes found :=
    have ⟨_, between, before⟩ := earlier.classes found
    have ⟨kept, behind, after⟩ := later.classes between
    ⟨kept, behind, before.trans after⟩
  objects found :=
    have ⟨_, between, before⟩ := earlier.objects found
    have ⟨kept, behind, after⟩ := later.objects between
    ⟨kept, behind, before.trans after⟩

/-- Changes of classes that touch nothing but what may change. -/
theorem keeps_of_changeClass (world : World κ) (index : Nat) {change : ClassRecord → ClassRecord}
    (kept : ∀ record : ClassRecord, record.Kept (change record)) :
    world.Keeps { world with classes := world.classes.modify index change } where
  classes {place record} found := by
    by_cases same : index = place
    · exact ⟨change record, by simp [Array.getElem?_modify, same, found], kept record⟩
    · exact ⟨record, by simp [Array.getElem?_modify, same, found], .refl record⟩
  objects found := ⟨_, found, .refl _⟩

/-- A step keeps the classes and objects of a world. -/
theorem Step.keeps {world later : World κ} (step : world.Step later) : world.Keeps later := by
  cases step with
  | newObject object =>
    refine ⟨fun found => ⟨_, found, .refl _⟩, fun {ref kept} found => ⟨kept, ?_, .refl kept⟩⟩
    obtain ⟨inside, same⟩ := Array.getElem?_eq_some_iff.1 found
    exact (Array.getElem?_push_lt inside).trans (congrArg some same)
  | changedObject ref change kept =>
    refine ⟨fun found => ⟨_, found, .refl _⟩, fun {place object} found => ?_⟩
    by_cases same : ref = place
    · exact ⟨change object, by simp [Array.getElem?_modify, same, found], kept object⟩
    · exact ⟨object, by simp [Array.getElem?_modify, same, found], .refl object⟩
  | newClass derived =>
    refine ⟨fun {index kept} found => ⟨kept, ?_, .refl kept⟩, fun found => ⟨_, found, .refl _⟩⟩
    obtain ⟨inside, same⟩ := Array.getElem?_eq_some_iff.1 found
    exact (Array.getElem?_push_lt inside).trans (congrArg some same)
  | changedClass index change kept => exact keeps_of_changeClass world index fun record => (kept record).1
  | elsewhere classes objects =>
    exact ⟨fun {_ record} found => ⟨record, by rw [classes, found], .refl record⟩,
      fun {_ object} found => ⟨object, by rw [objects, found], .refl object⟩⟩

instance courseOfKeeps : World.Course (Keeps : World κ → World κ → Prop) where
  refl := World.Keeps.refl
  trans := World.Keeps.trans
  step := World.Step.keeps

end World

/-! ### What makes a class a record class -/

/-- Whether the declarations are those that a class has when it is made a record class in a world. -/
def Record.IsDeclared (world : World κ) (index : Nat) (definition : RecordDefinition) : Prop :=
  ∃ record keywordOnly own, world.classes[index]? = some record ∧
    declareAll world (.defined index) keywordOnly false record.annotations = .ok own ∧
    definition.fields = own.foldl addField (inherited world (.defined index)).1

/-- A world goes on from an earlier one: its classes and objects are still there, and what makes a
class a record class was there, or was declared in a world in between. -/
structure World.Continues (earlier later : World κ) : Prop where
  keeps : earlier.Keeps later
  definitions : ∀ {index : Nat} {record : ClassRecord} {definition : RecordDefinition},
    later.classes[index]? = some record → record.record = some definition →
    (∃ before, earlier.classes[index]? = some before ∧ before.record = some definition) ∨
    ∃ making, earlier.Keeps making ∧ making.Keeps later ∧
      Record.IsDeclared making index definition

namespace World

theorem Continues.refl (world : World κ) : world.Continues world :=
  ⟨.refl world, fun {_ record _} found defined => .inl ⟨record, found, defined⟩⟩

theorem Continues.trans {first second third : World κ} (earlier : first.Continues second)
    (later : second.Continues third) : first.Continues third where
  keeps := earlier.keeps.trans later.keeps
  definitions {index record definition} found defined := by
    rcases later.definitions found defined with ⟨before, between, same⟩ | ⟨making, before, after, made⟩
    · rcases earlier.definitions between same with first | ⟨making, before, after, made⟩
      · exact .inl first
      · exact .inr ⟨making, before, after.trans later.keeps, made⟩
    · exact .inr ⟨making, earlier.keeps.trans before, after, made⟩

/-- A world goes on from an earlier one if each of its record classes was one already. -/
theorem continues_of_same_records {world later : World κ} (keeps : world.Keeps later)
    (same : ∀ {index : Nat} {record : ClassRecord}, later.classes[index]? = some record →
      record.record = none ∨
        ∃ before, world.classes[index]? = some before ∧ before.record = record.record) :
    world.Continues later := by
  refine ⟨keeps, fun {index record definition} found defined => ?_⟩
  rcases same found with missing | ⟨before, there, equal⟩
  · exact nomatch missing.symm.trans defined
  · exact .inl ⟨before, there, equal.trans defined⟩

/-- A step goes on from the world before it. -/
theorem Step.continues {world later : World κ} (step : world.Step later) :
    world.Continues later := by
  refine continues_of_same_records step.keeps fun {index record} found => ?_
  cases step with
  | newObject object => exact .inr ⟨record, found, rfl⟩
  | changedObject ref change kept => exact .inr ⟨record, found, rfl⟩
  | newClass derived =>
    rw [Array.getElem?_push] at found
    split at found
    · cases found
      exact .inl (Derivation.isDerived_of_record derived).record
    · exact .inr ⟨record, found, rfl⟩
  | changedClass place change kept =>
    rw [Array.getElem?_modify] at found
    split at found
    · obtain ⟨before, there, rfl⟩ := Option.map_eq_some_iff.1 found
      exact .inr ⟨before, there, (kept before).2.symm⟩
    · exact .inr ⟨record, found, rfl⟩
  | elsewhere classes objects => exact .inr ⟨record, classes ▸ found, rfl⟩

instance courseOfContinues : World.Course (Continues : World κ → World κ → Prop) where
  refl := World.Continues.refl
  trans := World.Continues.trans
  step := World.Step.continues

end World

namespace Record

/-- Noting declarations that the class has in an earlier world goes on from that world. -/
theorem continues_of_define {world middle : World κ} (goesOn : world.Continues middle)
    {index : Nat} {fields : List RecordField} {frozen completes : Bool}
    (declared : ∀ completes, IsDeclared world index ⟨fields, frozen, completes⟩) :
    world.Continues { middle with
      classes := middle.classes.modify index fun record =>
        { record with record := some ⟨fields, frozen, completes⟩ } } := by
  have noted := World.keeps_of_changeClass middle index fun record : ClassRecord =>
    (⟨rfl, rfl, rfl, rfl, rfl⟩ :
      record.Kept { record with record := some ⟨fields, frozen, completes⟩ })
  refine ⟨goesOn.keeps.trans noted, fun {place record definition} found defined => ?_⟩
  rw [Array.getElem?_modify] at found
  split at found
  · next same =>
    obtain ⟨before, there, rfl⟩ := Option.map_eq_some_iff.1 found
    cases defined
    exact .inr ⟨world, .refl world, goesOn.keeps.trans noted, same ▸ declared completes⟩
  · rcases goesOn.definitions found defined with before | ⟨making, earlier, later, made⟩
    · exact .inl before
    · exact .inr ⟨making, earlier, later.trans noted, made⟩

/-- Completing a class with the declarations that it has in an earlier world. -/
theorem continues_of_complete {world middle : World κ} (goesOn : world.Continues middle)
    {index : Nat} {options : RecordOptions} {annotations : Attributes}
    {inherited : List RecordField × Option Bool} {own : List RecordField}
    (declared : ∀ completes,
      IsDeclared world index ⟨own.foldl addField inherited.1, options.frozen, completes⟩) :
    world.Continues
      ((complete options index annotations inherited own : Run κ Unit).outcome middle).2 := by
  unfold complete
  refine Run.related_of_bind goesOn (follows_settleDefaults _ own) fun _ settled goesOn => ?_
  refine Run.related_of_bind goesOn (follows_checkDrafts index annotations) fun _ checked goesOn => ?_
  split
  · exact goesOn
  · have defined : (define index (own.foldl addField inherited.1) options.frozen :
        Run κ Unit).outcome checked = (.ok (), _) := rfl
    dsimp only
    rw [Run.outcome_bind_of_ok _ defined]
    exact (continues_of_define goesOn declared).trans
      (follows_supplyMethods options (.defined index) _ _)

/-- Whatever comes of making a class a record class, the world goes on from the one before. -/
theorem follows_continues_make (options : RecordOptions) (target : Value) :
    Follows World.Continues (make options target : Run κ Value) := by
  intro world
  unfold make
  split
  · next index =>
    rw [Run.outcome_get_bind, Run.outcome_classRecord_bind]
    cases found : world.classes[index]? with
    | none => exact .refl world
    | some record =>
      dsimp only
      split
      · exact .refl world
      · next own declared =>
        have made : world.Continues ((complete options index record.annotations
            (inherited world (.defined index)) own : Run κ Unit).outcome world).2 :=
          continues_of_complete (.refl world) fun _ =>
            ⟨record, options.keywordOnly, own, found, declared, rfl⟩
        rcases ran : (complete options index record.annotations (inherited world (.defined index))
          own : Run κ Unit).outcome world with ⟨failure | done, later⟩
        · rw [ran] at made
          exact Run.outcome_bind_of_error _ ran ▸ made
        · rw [ran] at made
          exact Run.outcome_bind_of_ok _ ran ▸ made
  · exact .refl world

end Record

instance World.recordCourseOfContinues :
    World.RecordCourse (World.Continues : World κ → World κ → Prop) where
  make := Record.follows_continues_make

/-! ### Fields -/

namespace Record

/-- Whether a declared type makes a field in a world, and marks nothing else. -/
def makesField (world : World κ) (type : Value) : Bool :=
  !hasMark world .dataclasses marksKeywords type && roleOf world type == .field

theorem drafted_name (world : World κ) (identity : ClassId) (name : String) :
    (drafted world identity name).name = name := by
  unfold drafted
  dsimp only
  split <;> rfl

theorem declare_eq_ok {world : World κ} {identity : ClassId} {keywordOnly : Bool} {name : String}
    {type : Value} {field : RecordField}
    (declared : declare world identity keywordOnly name type = .ok field) :
    field.name = name ∧ field.role = roleOf world type := by
  have named := drafted_name world identity name
  unfold declare at declared
  cases role : roleOf world type <;> simp only [role] at declared <;> split at declared <;>
    cases declared
  all_goals exact ⟨named, rfl⟩

/-- The declarations that make fields are those of types that do, in their order, and no declaration
has a name of its own. -/
theorem declareAll_eq_ok {world : World κ} {identity : ClassId} {keywordOnly marked : Bool}
    {annotations : Attributes} {own : List RecordField}
    (declared : declareAll world identity keywordOnly marked annotations = .ok own) :
    (own.filter (·.role == .field)).map (·.name) =
        (annotations.filter (makesField world ·.2)).map (·.1) ∧
      (own.map (·.name)).Sublist (annotations.map (·.1)) := by
  induction annotations generalizing keywordOnly marked own with
  | nil =>
    cases declared
    exact ⟨rfl, .slnil⟩
  | cons entry rest inductionHypothesis =>
    obtain ⟨name, type⟩ := entry
    unfold declareAll at declared
    split at declared
    · next mark =>
      split at declared
      · exact nomatch declared
      · obtain ⟨fields, names⟩ := inductionHypothesis declared
        refine ⟨?_, names.cons name⟩
        simpa [makesField, mark] using fields
    · next unmarked =>
      obtain ⟨field, first, declared⟩ := Except.exists_of_bind_eq_ok declared
      obtain ⟨behind, others, declared⟩ := Except.exists_of_bind_eq_ok declared
      cases declared
      obtain ⟨fields, names⟩ := inductionHypothesis others
      obtain ⟨named, role⟩ := declare_eq_ok first
      have makes : makesField world type = (field.role == .field) := by
        simp [makesField, role, unmarked]
      refine ⟨?_, by simpa [named] using names.cons_cons name⟩
      rw [List.filter_cons, List.filter_cons, makes]
      split <;> simp [fields, named]

/-- Declarations with names of their own are added one behind the other. -/
theorem foldl_addField {earlier own : List RecordField}
    (distinct : ((earlier ++ own).map (·.name)).Nodup) :
    own.foldl addField earlier = earlier ++ own := by
  induction own generalizing earlier with
  | nil => simp
  | cons first rest inductionHypothesis =>
    have fresh : earlier.any (·.name == first.name) = false := by
      rw [List.map_append, List.nodup_append] at distinct
      simp only [List.any_eq_false, beq_iff_eq]
      exact fun field among same => distinct.2.2 field.name (List.mem_map_of_mem among)
        first.name List.mem_cons_self same
    rw [List.foldl_cons, addField, fresh]
    simpa using @inductionHypothesis (earlier ++ [first]) (by simpa using distinct)

theorem definition?_of_builtin (world : World κ) (kind : BuiltinClass) :
    definition? world (.builtin kind) = none := by
  simp [definition?, World.ancestors, World.record?]

section Line

variable {world : World κ} {index : Nat} {record : ClassRecord} {behind : List ClassId}
  (found : world.classes[index]? = some record)
  (line : record.ancestors = .defined index :: behind)
  (builtin : ∀ ancestor ∈ behind, ∃ kind, ancestor = .builtin kind)

include found line builtin

/-- A class with nothing but built-in classes behind it inherits no declarations. -/
theorem inherited_of_line : (inherited world (.defined index)).1 = [] := by
  have empty : behind.reverse.filterMap (definition? world) = [] := by
    refine List.filterMap_eq_nil_iff.2 fun ancestor among => ?_
    obtain ⟨kind, rfl⟩ := builtin ancestor (List.mem_reverse.1 among)
    exact definition?_of_builtin world kind
  unfold inherited
  simp [World.ancestors, found, line, empty]

/-- A class with nothing but built-in classes behind it is a record class by itself or not at
all. -/
theorem definition?_of_line :
    definition? world (.defined index) =
      record.record.map fun definition => (.defined index, definition) := by
  have others : (behind.findSome? fun ancestor =>
      ((world.record? ancestor).bind (·.record)).map fun definition => (ancestor, definition)) =
        none := by
    refine List.findSome?_eq_none_iff.2 fun ancestor among => ?_
    obtain ⟨kind, rfl⟩ := builtin ancestor among
    rfl
  have ancestors : world.ancestors (.defined index) = .defined index :: behind := by
    simp [World.ancestors, found, line]
  have own : world.record? (.defined index) = some record := found
  unfold definition?
  rw [ancestors, List.findSome?_cons, own, others, Option.bind_some]
  cases record.record <;> rfl

end Line

theorem fieldNames_eq_ok {world after : World κ} {identity : ClassId} {names : List String}
    (named : (fieldNames (.ofClass identity)).outcome world = (.ok names, after)) :
    ∃ ancestor definition, definition? world identity = some (ancestor, definition) ∧
      names = (definition.fields.filter (·.role == .field)).map (·.name) := by
  unfold fieldNames at named
  rw [Run.outcome_get_bind] at named
  dsimp only at named
  split at named
  · next ancestor definition found =>
    cases named
    exact ⟨ancestor, definition, found, rfl⟩
  · exact nomatch named

/-- The fields of a record class without record classes among its ancestors: the names for which it
declares types that made fields in the world in which it was made a record class. -/
theorem fieldNames_of_continues {start later after : World κ} (goesOn : start.Continues later)
    {index : Nat} {record : ClassRecord} {behind : List ClassId} {names : List String}
    (found : start.classes[index]? = some record) (unmade : record.record = none)
    (line : record.ancestors = .defined index :: behind)
    (builtin : ∀ ancestor ∈ behind, ∃ kind, ancestor = .builtin kind)
    (distinct : (record.annotations.map (·.1)).Nodup)
    (named : (fieldNames (.ofClass (.defined index))).outcome later = (.ok names, after)) :
    ∃ making, start.Keeps making ∧ making.Keeps later ∧
      names = (record.annotations.filter (makesField making ·.2)).map (·.1) := by
  obtain ⟨kept, there, same⟩ := goesOn.keeps.classes found
  obtain ⟨ancestor, definition, defined, rfl⟩ := fieldNames_eq_ok named
  rw [definition?_of_line there (same.ancestors.trans line) builtin] at defined
  obtain ⟨definition, defined, -, rfl⟩ := Option.map_eq_some_iff.1 defined
  rcases goesOn.definitions there defined with ⟨before, first, made⟩ | ⟨making, earlier, after, made⟩
  · cases found.symm.trans first
    exact nomatch unmade.symm.trans made
  · obtain ⟨record', keywordOnly, own, between, declared, fields⟩ := made
    obtain ⟨_, again, sameBetween⟩ := earlier.classes found
    cases between.symm.trans again
    obtain ⟨makes, names⟩ := declareAll_eq_ok declared
    rw [sameBetween.annotations] at makes names
    rw [inherited_of_line between (sameBetween.ancestors.trans line) builtin,
      foldl_addField (by simpa using distinct.sublist names)] at fields
    exact ⟨making, earlier, after, by rw [fields, List.nil_append, makes]⟩

end Record

end DifferenceTypes
