import DifferenceTypes.Object.Derivation

/-!
# The course of a computation

Whatever is run in a world, the world only ever changes by small steps: an object or a class is
added, an object gets other contents or attributes, a class gets another name or other attributes,
or something changes that is neither. No step takes anything away, turns an object into one of
another class, or touches what a class was derived from and declares.

A relation between worlds that is reflexive and transitive and holds for every step holds between
the world that a computation starts in and the one that it leaves behind, whether it succeeds or
fails. This is shown here for the building blocks of computations, and in the modules behind this
one for everything that is built from them.
-/

namespace DifferenceTypes

variable {κ α β : Type}

/-- What no change of an object touches: its class, and the function that it is. -/
structure Object.Kept (earlier later : Object) : Prop where
  classId : later.classId = earlier.classId
  function : ∀ function, earlier.content = .function function → later.content = .function function

/-- What no change of a class touches: what it was derived from and what it declares. -/
structure ClassRecord.Kept (earlier later : ClassRecord) : Prop where
  bases : later.bases = earlier.bases
  writtenBases : later.writtenBases = earlier.writtenBases
  ancestors : later.ancestors = earlier.ancestors
  annotations : later.annotations = earlier.annotations
  parameters : later.parameters = earlier.parameters

namespace Object

theorem Kept.refl (object : Object) : object.Kept object :=
  ⟨rfl, fun _ same => same⟩

theorem Kept.trans {first second third : Object} (earlier : first.Kept second)
    (later : second.Kept third) : first.Kept third :=
  ⟨later.classId.trans earlier.classId,
    fun function same => later.function function (earlier.function function same)⟩

theorem kept_setAttribute (object : Object) (name : String) (value : Value) :
    object.Kept (object.setAttribute name value) :=
  ⟨rfl, fun _ same => same⟩

theorem kept_removeAttribute (object : Object) (name : String) :
    object.Kept (object.removeAttribute name) :=
  ⟨rfl, fun _ same => same⟩

theorem kept_withItems (object : Object) (items : List Value) :
    object.Kept (object.withItems items) := by
  unfold withItems
  split
  · next list => exact ⟨rfl, fun function same => by simp [list] at same⟩
  · exact .refl object

theorem kept_withEntries (object : Object) (entries : List (Value × Value)) :
    object.Kept (object.withEntries entries) := by
  unfold withEntries
  split
  · next dictionary => exact ⟨rfl, fun function same => by simp [dictionary] at same⟩
  · exact .refl object

end Object

namespace ClassRecord

theorem Kept.refl (record : ClassRecord) : record.Kept record :=
  ⟨rfl, rfl, rfl, rfl, rfl⟩

theorem Kept.trans {first second third : ClassRecord} (earlier : first.Kept second)
    (later : second.Kept third) : first.Kept third :=
  ⟨later.bases.trans earlier.bases, later.writtenBases.trans earlier.writtenBases,
    later.ancestors.trans earlier.ancestors, later.annotations.trans earlier.annotations,
    later.parameters.trans earlier.parameters⟩

theorem kept_assign (record : ClassRecord) (name : String) (value : Value) :
    record.Kept (record.assign name value) ∧ (record.assign name value).record = record.record := by
  unfold assign
  split <;> exact ⟨⟨rfl, rfl, rfl, rfl, rfl⟩, rfl⟩

theorem kept_removeAttribute (record : ClassRecord) (name : String) :
    record.Kept (record.removeAttribute name) ∧
      (record.removeAttribute name).record = record.record :=
  ⟨⟨rfl, rfl, rfl, rfl, rfl⟩, rfl⟩

end ClassRecord

/-- The smallest changes of a world, except for what makes a class a record class. -/
inductive World.Step : World κ → World κ → Prop
  | newObject (world : World κ) (object : Object) :
    Step world { world with objects := world.objects.push object }
  | changedObject (world : World κ) (ref : Ref) (change : Object → Object)
    (kept : ∀ object : Object, object.Kept (change object)) :
    Step world { world with objects := world.objects.modify ref change }
  | newClass {world : World κ} {record : ClassRecord} {name qualifiedName : String}
    {written : List Value} {attributes annotations : Attributes}
    (derived : Derivation.record world (.defined world.classes.size) name qualifiedName written
      attributes annotations = .ok record) :
    Step world { world with classes := world.classes.push record }
  | changedClass (world : World κ) (index : Nat) (change : ClassRecord → ClassRecord)
    (kept : ∀ record : ClassRecord, record.Kept (change record) ∧ (change record).record = record.record) :
    Step world { world with classes := world.classes.modify index change }
  | elsewhere {world later : World κ} (classes : later.classes = world.classes)
    (objects : later.objects = world.objects) : Step world later

/-- A relation that leads along every course of steps. -/
class World.Course (related : World κ → World κ → Prop) : Prop where
  refl : ∀ world, related world world
  trans : ∀ {first second third}, related first second → related second third → related first third
  step : ∀ {world later}, World.Step world later → related world later

/-- All worlds are related to each other. -/
instance World.courseOfAll : World.Course fun _ _ : World κ => True where
  refl _ := trivial
  trans _ _ := trivial
  step _ := trivial

namespace Run

/-- What a computation gives in a world, and the world that it leaves behind. -/
def outcome (computation : Run κ α) (world : World κ) : Except Failure α × World κ :=
  computation.run.run world

/-- Behind a computation that succeeds the next one goes on from the world that it leaves. -/
theorem outcome_bind_of_ok {computation : Run κ α} {world later : World κ} {value : α}
    (next : α → Run κ β) (ran : computation.outcome world = (.ok value, later)) :
    outcome (computation >>= next) world = (next value).outcome later := by
  have opened : (StateT.run (ExceptT.run computation) world : Except Failure α × World κ) =
      (.ok value, later) := ran
  unfold outcome
  rw [ExceptT.run_bind, StateT.run_bind, opened]
  rfl

/-- A computation that fails leaves nothing to do for the one behind it. -/
theorem outcome_bind_of_error {computation : Run κ α} {world later : World κ} {failure : Failure}
    (next : α → Run κ β) (ran : computation.outcome world = (.error failure, later)) :
    outcome (computation >>= next) world = (.error failure, later) := by
  have opened : (StateT.run (ExceptT.run computation) world : Except Failure α × World κ) =
      (.error failure, later) := ran
  unfold outcome
  rw [ExceptT.run_bind, StateT.run_bind, opened]
  rfl

/-- A computation that succeeds has succeeded in its first part, and in the rest from there. -/
theorem outcome_bind_eq_ok {computation : Run κ α} {next : α → Run κ β} {world later : World κ}
    {value : β} (ran : outcome (computation >>= next) world = (.ok value, later)) :
    ∃ first middle, computation.outcome world = (.ok first, middle) ∧
      (next first).outcome middle = (.ok value, later) := by
  rcases opened : computation.outcome world with ⟨result, middle⟩
  cases result with
  | ok first => exact ⟨first, middle, rfl, outcome_bind_of_ok next opened ▸ ran⟩
  | error failure => simp [outcome_bind_of_error next opened] at ran

/-- A handler takes over from the world that the failure left behind. -/
theorem outcome_recover (computation : Run κ α) (handler : Failure → Run κ α) (world : World κ) :
    outcome (tryCatchThe Failure computation handler) world =
      match computation.outcome world with
      | (.ok value, later) => (.ok value, later)
      | (.error failure, later) => (handler failure).outcome later := by
  rcases opened : computation.outcome world with ⟨result, later⟩
  have ran : computation world = (result, later) := opened
  change (ExceptT.tryCatch computation handler) world = _
  simp only [ExceptT.tryCatch, ExceptT.mk, bind, StateT.bind, ran]
  cases result <;> rfl

theorem outcome_get_bind (next : World κ → Run κ β) (world : World κ) :
    outcome (get >>= next) world = (next world).outcome world :=
  outcome_bind_of_ok next rfl

theorem outcome_classRecord_bind (index : Nat) (next : ClassRecord → Run κ β) (world : World κ) :
    outcome (classRecord index >>= next) world =
      match world.classes[index]? with
      | some record => (next record).outcome world
      | none => (.error .unsupported, world) := by
  have opened : outcome (classRecord index) world =
      match world.classes[index]? with
      | some record => (.ok record, world)
      | none => (.error .unsupported, world) := by
    unfold classRecord
    rw [outcome_get_bind]
    cases world.classes[index]? <;> rfl
  cases found : world.classes[index]? with
  | none => exact outcome_bind_of_error next (by rw [opened, found])
  | some record => exact outcome_bind_of_ok next (by rw [opened, found])

/-- Wherever a computation starts, the world that it leaves behind is related to the one that it
starts in. -/
def Follows (related : World κ → World κ → Prop) (computation : Run κ α) : Prop :=
  ∀ world, related world (computation.outcome world).2

section Rules

variable {related : World κ → World κ → Prop} [course : World.Course related]

@[grind ←]
theorem follows_pure (value : α) : Follows related (pure value : Run κ α) :=
  fun world => course.refl world

@[grind ←]
theorem follows_throw (failure : Failure) : Follows related (throw failure : Run κ α) :=
  fun world => course.refl world

@[grind ←]
theorem follows_get : Follows related (get : Run κ (World κ)) :=
  fun world => course.refl world

@[grind ←]
theorem Follows.bind {computation : Run κ α} {next : α → Run κ β}
    (first : Follows related computation) (second : ∀ value, Follows related (next value)) :
    Follows related (computation >>= next) := by
  intro world
  rcases opened : computation.outcome world with ⟨result, middle⟩
  have before : related world middle := by simpa [opened] using first world
  cases result with
  | ok value =>
    rw [outcome_bind_of_ok next opened]
    exact course.trans before (second value middle)
  | error failure =>
    rw [outcome_bind_of_error next opened]
    exact before

/-- What follows a computation may go by the world that all of it started in. -/
theorem related_of_bind {computation : Run κ α} {next : α → Run κ β} {world middle : World κ}
    (before : related world middle) (first : Follows related computation)
    (second : ∀ value later, related world later → related world ((next value).outcome later).2) :
    related world (outcome (computation >>= next) middle).2 := by
  rcases opened : computation.outcome middle with ⟨result, later⟩
  have between : related world later :=
    course.trans before (by simpa [opened] using first middle)
  cases result with
  | ok value => exact outcome_bind_of_ok next opened ▸ second value later between
  | error failure => exact outcome_bind_of_error next opened ▸ between

@[grind ←]
theorem Follows.map {computation : Run κ α} (function : α → β)
    (follows : Follows related computation) : Follows related (function <$> computation) := by
  rw [map_eq_pure_bind]
  exact follows.bind fun value => follows_pure _

@[grind ←]
theorem Follows.discard {computation : Run κ α} (follows : Follows related computation) :
    Follows related (discard computation) :=
  follows.map _

@[grind ←]
theorem Follows.recover {computation : Run κ α} {handler : Failure → Run κ α}
    (first : Follows related computation) (second : ∀ failure, Follows related (handler failure)) :
    Follows related (tryCatchThe Failure computation handler) := by
  intro world
  rcases opened : computation.outcome world with ⟨result, middle⟩
  have before : related world middle := by simpa [opened] using first world
  rw [outcome_recover, opened]
  cases result with
  | ok value => exact before
  | error failure => exact course.trans before (second failure middle)

/-- A change of the world that is a step. -/
theorem follows_modify {change : World κ → World κ}
    (steps : ∀ world, World.Step world (change world)) :
    Follows related (modify change : Run κ PUnit) :=
  fun world => course.step (steps world)

@[grind ←]
theorem follows_forM {values : List α} {action : α → Run κ PUnit}
    (follows : ∀ value, Follows related (action value)) :
    Follows related (values.forM action) := by
  induction values with
  | nil => exact follows_pure _
  | cons first rest inductionHypothesis =>
    exact (follows first).bind fun _ => inductionHypothesis

@[grind ←]
theorem follows_mapM {values : List α} {action : α → Run κ β}
    (follows : ∀ value, Follows related (action value)) :
    Follows related (values.mapM action) := by
  induction values with
  | nil => exact follows_pure _
  | cons first rest inductionHypothesis =>
    rw [List.mapM_cons]
    exact (follows first).bind fun _ => inductionHypothesis.bind fun _ => follows_pure _

@[grind ←]
theorem follows_foldlM {values : List α} {action : β → α → Run κ β}
    (follows : ∀ found value, Follows related (action found value)) (start : β) :
    Follows related (values.foldlM action start) := by
  induction values generalizing start with
  | nil => exact follows_pure _
  | cons first rest inductionHypothesis =>
    rw [List.foldlM_cons]
    exact (follows start first).bind fun _ => inductionHypothesis _

theorem follows_foldrM {values : List α} {action : α → β → Run κ β}
    (follows : ∀ value found, Follows related (action value found)) (start : β) :
    Follows related (values.foldrM action start) := by
  induction values generalizing start with
  | nil => exact follows_pure _
  | cons first rest inductionHypothesis =>
    rw [List.foldrM_cons]
    exact (inductionHypothesis start).bind fun found => follows first found

/-! ### The building blocks -/

@[grind ←]
theorem follows_object (ref : Ref) : Follows related (object ref : Run κ Object) := by
  grind [object]

@[grind ←]
theorem follows_changeObject (ref : Ref) {change : Object → Object}
    (kept : ∀ object : Object, object.Kept (change object)) :
    Follows related (changeObject ref change : Run κ Unit) :=
  follows_modify fun world => .changedObject world ref change kept

@[grind ←]
theorem follows_putItems (ref : Ref) (items : List Value) :
    Follows related (putItems ref items : Run κ Unit) :=
  follows_changeObject ref fun object => object.kept_withItems items

@[grind ←]
theorem follows_putEntries (ref : Ref) (entries : List (Value × Value)) :
    Follows related (putEntries ref entries : Run κ Unit) :=
  follows_changeObject ref fun object => object.kept_withEntries entries

@[grind ←]
theorem follows_create (object : Object) : Follows related (create object : Run κ Value) :=
  fun world => course.step (.newObject world object)

@[grind ←]
theorem follows_createList (items : List Value) :
    Follows related (createList items : Run κ Value) :=
  follows_create _

@[grind ←]
theorem follows_createDictionary (entries : List (Value × Value)) :
    Follows related (createDictionary entries : Run κ Value) :=
  follows_create _

@[grind ←]
theorem follows_classRecord (index : Nat) :
    Follows related (classRecord index : Run κ ClassRecord) := by
  grind [classRecord]

theorem follows_changeClass (index : Nat) {change : ClassRecord → ClassRecord}
    (kept : ∀ record : ClassRecord, record.Kept (change record) ∧ (change record).record = record.record) :
    Follows related (changeClass index change : Run κ Unit) :=
  follows_modify fun world => .changedClass world index change kept

@[grind ←]
theorem follows_describing (ref : Ref) (mark : Text) {description : Run κ Text}
    (follows : Follows related description) :
    Follows related (describing ref mark description) := by
  have marks (change : List Ref → List Ref) : Follows related
      (modify fun world : World κ => { world with described := change world.described }) :=
    follows_modify fun _ => .elsewhere rfl rfl
  unfold describing
  refine follows_get.bind fun world => ?_
  split
  · exact follows_pure mark
  · have removed := marks (·.erase ref)
    refine (marks (ref :: ·)).bind fun _ => ?_
    refine (follows.recover fun failure => removed.bind fun _ => follows_throw failure).bind ?_
    exact fun text => removed.bind fun _ => follows_pure text

@[grind ←]
theorem follows_observe (observation : Observation) :
    Follows related (observe observation : Run κ Unit) :=
  follows_modify fun _ => .elsewhere rfl rfl

@[grind ←]
theorem follows_view (value : Value) : Follows related (view value : Run κ View) := by
  grind [view]

@[grind ←]
theorem follows_elements (value : Value) : Follows related (elements value : Run κ (List Value)) := by
  grind [elements]

end Rules
end Run
end DifferenceTypes
