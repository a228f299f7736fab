import DifferenceTypes.Proofs.Object.Course
import DifferenceTypes.Proofs.Object.Derivation

/-!
# Attributes of classes

What setting an attribute of a class and deriving a class do to the attributes that classes have of
their own. Setting one changes this attribute of this class and nothing else; a derived class stands at
the head of its line, has the attributes of its body, and leaves every class before it as it is.
-/

namespace DifferenceTypes

open Run (outcome)

variable {κ : Type}

/-- What is found first in a list does not depend on what would be found elsewhere. -/
theorem findSome?_congr {α β : Type} {first second : α → Option β} {list : List α}
    (same : ∀ element ∈ list, first element = second element) :
    list.findSome? first = list.findSome? second := by
  induction list with
  | nil => rfl
  | cons element rest inductionHypothesis =>
    rw [List.findSome?_cons, List.findSome?_cons, same element List.mem_cons_self,
      inductionHypothesis fun other among => same other (List.mem_cons_of_mem _ among)]

/-- A built-in class stands at the head of its line of ancestors. -/
theorem BuiltinClass.exists_ancestors_eq (kind : BuiltinClass) :
    ∃ behind, kind.ancestors = kind :: behind := by
  cases kind <;> exact ⟨_, rfl⟩

namespace World

/-- Whether a class is there: every built-in class is, and so are those that were derived. -/
def HasClass (world : World κ) : ClassId → Prop
  | .builtin _ => True
  | .defined index => index < world.classes.size

instance (world : World κ) : (identity : ClassId) → Decidable (world.HasClass identity)
  | .builtin _ => inferInstanceAs (Decidable True)
  | .defined index => inferInstanceAs (Decidable (index < world.classes.size))

/-- Nothing was set on a closed built-in class. -/
def IsClosed (world : World κ) : Prop :=
  ∀ kind : BuiltinClass, kind.isOpen = false → world.extension kind = []

/-- The class of a class has what all classes have, and one of them has it by a class of its own. -/
theorem ancestors_metaclass (world : World κ) (identity : ClassId) :
    (world.metaclass identity).ancestors = [.type, .object] ∨
      (world.metaclass identity).ancestors = [.anyType, .type, .object] := by
  unfold World.metaclass
  split
  · exact .inr rfl
  · exact .inl rfl

theorem ownAttribute?_closed {world : World κ} (closed : world.IsClosed) {kind : BuiltinClass}
    (isClosed : kind.isOpen = false) (name : String) :
    world.ownAttribute? (.builtin kind) name = kind.attributes.get? name := by
  simp only [World.ownAttribute?, closed kind isClosed]
  rfl

/-- The worlds have the same classes in the same lines, nothing was set on a closed built-in class, and
the leaf contracts are the same. -/
structure SameLines (earlier later : World κ) : Prop where
  size : later.classes.size = earlier.classes.size
  ancestors : ∀ identity, later.ancestors identity = earlier.ancestors identity
  closed : ∀ kind, kind.isOpen = false → later.extension kind = earlier.extension kind
  leaves : later.leaves = earlier.leaves

theorem SameLines.refl (world : World κ) : world.SameLines world :=
  ⟨rfl, fun _ => rfl, fun _ _ => rfl, rfl⟩

theorem SameLines.trans {first second third : World κ} (earlier : first.SameLines second)
    (later : second.SameLines third) : first.SameLines third :=
  ⟨later.size.trans earlier.size,
    fun identity => (later.ancestors identity).trans (earlier.ancestors identity),
    fun kind closed => (later.closed kind closed).trans (earlier.closed kind closed),
    later.leaves.trans earlier.leaves⟩

theorem SameLines.hasClass {earlier later : World κ} (same : earlier.SameLines later)
    {identity : ClassId} (there : earlier.HasClass identity) : later.HasClass identity := by
  cases identity with
  | builtin kind => trivial
  | defined index => exact lt_of_lt_of_eq there same.size.symm

/-- A class that has an attribute of its own is there. -/
theorem hasClass_of_own {world : World κ} {identity : ClassId} {name : String} {value : Value}
    (own : world.ownAttribute? identity name = some value) : world.HasClass identity := by
  cases identity with
  | builtin kind => trivial
  | defined index =>
    obtain ⟨record, found, -⟩ := Option.bind_eq_some_iff.1 own
    exact (Array.getElem?_eq_some_iff.1 found).1

/-- A class that has an attribute of its own gives it when it is asked, unless it is one of those that a
class goes by. -/
theorem attributeOfClass?_of_own {world : World κ} {identity : ClassId} {behind : List ClassId}
    {name : String} {value : Value} (noProperty : world.classProperty? identity name = none)
    (line : world.ancestors identity = identity :: behind)
    (own : world.ownAttribute? identity name = some value) :
    world.attributeOfClass? identity name = some (boundToClass identity value) := by
  unfold attributeOfClass? classAttribute?
  rw [noProperty, line, List.findSome?_cons, own]
  rfl

/-- One attribute of one class was set to a value. -/
structure Assigns (earlier later : World κ) (target : ClassId) (name : String) (value : Value) : Prop
    where
  lines : earlier.SameLines later
  own : ∀ other asked, later.ownAttribute? other asked =
    if other = target ∧ asked = name then some value else earlier.ownAttribute? other asked

end World

/-- A value under any other name than those that a class itself goes by is an attribute. -/
theorem ClassRecord.assign_eq (record : ClassRecord) {name : String} (value : Value)
    (noName : name ≠ "__name__") (noQualname : name ≠ "__qualname__") :
    record.assign name value = { record with attributes := record.attributes.set name value } := by
  unfold ClassRecord.assign
  split
  · exact absurd rfl noName
  · exact absurd rfl noQualname
  · rfl

theorem Attributes.get?_set (attributes : Attributes) (name asked : String) (value : Value) :
    (attributes.set name value).get? asked =
      if asked = name then some value else attributes.get? asked := by
  by_cases same : asked = name
  · simp [same]
  · simp [same]

namespace Access

variable {world later : World κ} {target : ClassId} {name : String} {value : Value}

/-- What was set on a built-in class is found there, and every other class keeps what it has. -/
theorem extension_cons (world : World κ) (kind other : BuiltinClass) (extended : Attributes) :
    World.extension { world with
        extensions := (kind, extended) :: world.extensions.filter (·.1 != kind) } other =
      if other = kind then extended else world.extension other := by
  unfold World.extension
  by_cases same : other = kind
  · simp [same]
  · have absent : (other == kind) = false := beq_false_of_ne same
    simp only [List.lookup_cons, absent, if_neg same]
    congr 1
    induction world.extensions with
    | nil => rfl
    | cons entry rest inductionHypothesis =>
      by_cases here : entry.1 = kind
      · rw [List.filter_cons_of_neg (by simpa using here), inductionHypothesis, List.lookup_cons, here,
          absent]
      · rw [List.filter_cons_of_pos (by simpa using here), List.lookup_cons, inductionHypothesis,
          List.lookup_cons]

/-- An attribute can be set on every class that is no closed built-in one. -/
theorem exists_assignToClass (world : World κ)
    (isOpen : ∀ kind, target = .builtin kind → kind.isOpen = true) (name : String) (value : Value) :
    ∃ later, outcome (assignToClass target name value) world = (.ok (), later) := by
  cases target with
  | builtin kind =>
    simp only [assignToClass, isOpen kind rfl, if_true]
    exact ⟨_, rfl⟩
  | defined index => exact ⟨_, rfl⟩

/-- Setting an attribute of a class that is there sets this attribute and no other. -/
theorem assigns_of_assignToClass (there : world.HasClass target) (noName : name ≠ "__name__")
    (noQualname : name ≠ "__qualname__")
    (ran : outcome (assignToClass target name value) world = (.ok (), later)) :
    world.Assigns later target name value := by
  cases target with
  | builtin kind =>
    simp only [assignToClass] at ran
    split at ran
    · next isOpen =>
      cases ran
      refine ⟨⟨rfl, fun identity => ?_, fun other closed => ?_, rfl⟩, fun other asked => ?_⟩
      · cases identity <;> rfl
      · rw [extension_cons, if_neg]
        rintro rfl
        exact Bool.false_ne_true (closed.symm.trans isOpen)
      · cases other with
        | defined index => simp [World.ownAttribute?]
        | builtin other =>
          simp only [World.ownAttribute?, extension_cons, ClassId.builtin.injEq]
          by_cases same : other = kind
          · rw [if_pos same, Attributes.get?_set]
            by_cases here : asked = name <;> simp [same, here]
          · simp [same]
    · cases ran
  | defined index =>
    obtain ⟨record, found⟩ : ∃ record, world.classes[index]? = some record :=
      ⟨_, Array.getElem?_eq_getElem there⟩
    cases ran
    have changed (place : Nat) : (world.classes.modify index (·.assign name value))[place]? =
        if index = place then some { record with attributes := record.attributes.set name value }
        else world.classes[place]? := by
      rw [Array.getElem?_modify]
      split
      · next same => rw [← same, found, Option.map_some, record.assign_eq value noName noQualname]
      · rfl
    refine ⟨⟨Array.size_modify, fun identity => ?_, fun _ _ => rfl, rfl⟩, fun other asked => ?_⟩
    · cases identity with
      | builtin kind => rfl
      | defined place =>
        simp only [World.ancestors, changed]
        by_cases same : index = place
        · simp [← same, found]
        · simp [same]
    · cases other with
      | builtin kind => simp [World.ownAttribute?, World.extension]
      | defined place =>
        simp only [World.ownAttribute?, changed, ClassId.defined.injEq, eq_comm (a := place)]
        by_cases same : index = place
        · subst same
          simp only [if_true, Option.bind_some, Attributes.get?_set, true_and, found]
        · simp [same]

end Access

namespace Derivation

variable {world later : World κ} {name qualifiedName : String} {written : List Value}
  {attributes annotations : Attributes} {identity : ClassId}

/-- What deriving a class adds to a world. -/
structure Derives (earlier later : World κ) (identity : ClassId) (attributes : Attributes) : Prop where
  isNew : identity = .defined earlier.classes.size
  size : later.classes.size = earlier.classes.size + 1
  line : ∃ behind, later.ancestors identity = identity :: behind
  ancestors : ∀ other, other ≠ identity → later.ancestors other = earlier.ancestors other
  closed : ∀ kind, later.extension kind = earlier.extension kind
  leaves : later.leaves = earlier.leaves
  attributes : ∀ asked, asked ≠ "__hash__" → asked ≠ Positional.arityName →
    later.ownAttribute? identity asked = attributes.get? asked
  own : ∀ other asked, other ≠ identity →
    later.ownAttribute? other asked = earlier.ownAttribute? other asked

/-- A class is not there before it is derived. -/
theorem Derives.absent (derives : Derives world later identity attributes) :
    ¬world.HasClass identity := by
  rw [derives.isNew]
  exact Nat.lt_irrefl _

/-- Behind a derivation there is one class more. -/
theorem Derives.hasClass_iff (derives : Derives world later identity attributes) {other : ClassId} :
    later.HasClass other ↔ world.HasClass other ∨ other = identity := by
  cases other with
  | builtin kind => simp [World.HasClass]
  | defined index =>
    simp only [World.HasClass, derives.size, derives.isNew, ClassId.defined.injEq]
    omega

/-- The attributes of a class are those of its body, except for two that its derivation settles. -/
theorem get?_countedAttributes (line : List ClassId) (kept : Option (List Value)) {asked : String}
    (noHash : asked ≠ "__hash__") (noArity : asked ≠ Positional.arityName) :
    (countedAttributes line kept attributes).get? asked = attributes.get? asked := by
  have settles : (settled attributes).get? asked = attributes.get? asked := by
    unfold settled
    split
    · exact Attributes.get?_set_of_ne _ _ noHash
    · rfl
  unfold countedAttributes
  dsimp only
  split
  · rw [Attributes.get?_set_of_ne _ _ noArity, settles]
  · exact settles

theorem attributes_of_record {next : ClassId} {made : ClassRecord}
    (derived : record world next name qualifiedName written attributes annotations = .ok made)
    {asked : String} (noHash : asked ≠ "__hash__") (noArity : asked ≠ Positional.arityName) :
    made.attributes.get? asked = attributes.get? asked := by
  obtain ⟨resolved, classes, line, parameters, -, -, -, rfl⟩ := exists_of_record derived
  exact get?_countedAttributes _ _ noHash noArity

/-- Deriving a class puts it behind the classes that are there, and does nothing else. -/
theorem exists_record_of_derive
    (ran : outcome (derive name qualifiedName written attributes annotations) world =
      (.ok identity, later)) :
    ∃ made, record world (.defined world.classes.size) name qualifiedName written attributes annotations =
        .ok made ∧
      identity = .defined world.classes.size ∧ later = { world with classes := world.classes.push made } := by
  unfold derive at ran
  rw [Run.outcome_get_bind] at ran
  split at ran
  · next made derived =>
    cases ran
    exact ⟨made, derived, rfl, rfl⟩
  · exact nomatch ran

theorem derives_of_derive
    (ran : outcome (derive name qualifiedName written attributes annotations) world =
      (.ok identity, later)) : Derives world later identity attributes := by
  obtain ⟨made, derived, rfl, rfl⟩ := exists_record_of_derive ran
  obtain ⟨behind, head, -⟩ := Ancestors.line?_eq_some (isDerived_of_record derived).ancestors
  have there (place : Nat) : (world.classes.push made)[place]? =
      if place = world.classes.size then some made else world.classes[place]? :=
    Array.getElem?_push
  have apart {place : Nat} (different : ClassId.defined place ≠ .defined world.classes.size) :
      place ≠ world.classes.size := fun same => different (congrArg _ same)
  refine ⟨rfl, Array.size_push _, ⟨behind, ?_⟩, fun other different => ?_, fun _ => rfl, rfl,
    fun asked noHash noArity => ?_, fun other asked different => ?_⟩
  · simp only [World.ancestors, there, if_true, head]
  · cases other with
    | builtin kind => rfl
    | defined place => simp only [World.ancestors, there, if_neg (apart different)]
  · simp only [World.ownAttribute?, there, if_true, Option.bind_some,
      attributes_of_record derived noHash noArity]
  · cases other with
    | builtin kind => rfl
    | defined place => simp only [World.ownAttribute?, there, if_neg (apart different)]

end Derivation

end DifferenceTypes
