import DifferenceTypes.Evaluation.Call
import DifferenceTypes.Proofs.Object.Arity
import DifferenceTypes.Session.Contract

/-!
# Numbers of fields under inheritance

A class notes a number of fields if bases of its own subscribe the positional class, and an instance is
completed by the number that the class finds along its line of ancestors. Classes are derived in any way, with
several bases, from classes with and without such bases, and things may be done in between. If no number was
assigned and no constructor defined, then the number of a class is the one of the first class in its line that
notes one: no built-in class comes in between, since the line of the positional class is kept in its order.
Instances are made of this number of items and no other, and of any items if no class in the line notes a
number (`Positional.outcome_construct`).
-/

namespace DifferenceTypes

open Run (outcome)
open Positional (arityName)

variable {κ : Type}

/-! ### Worlds in which no number was assigned -/

namespace World

/-- The bases of a class as they were written, if some of them were no classes. -/
def writtenBases? (world : World κ) (identity : ClassId) : Option (List Value) :=
  (world.record? identity).bind (·.writtenBases)

/-- The arguments of the bases of a class that subscribe the positional class, in their order. -/
def positionalBases (world : World κ) (identity : ClassId) : List (List Value) :=
  Derivation.positionalBases ((world.writtenBases? identity).getD [])

/-- There are the same classes as before in the same lines and with the same bases, nothing was set on a
closed built-in class, and no number of fields was assigned. -/
structure KeepsCounts (earlier later : World κ) : Prop where
  size : later.classes.size = earlier.classes.size
  ancestors : ∀ identity, later.ancestors identity = earlier.ancestors identity
  writtenBases : ∀ identity, later.writtenBases? identity = earlier.writtenBases? identity
  closed : ∀ kind, kind.isOpen = false → later.extension kind = earlier.extension kind
  arity : ∀ identity, later.ownAttribute? identity arityName = earlier.ownAttribute? identity arityName

/-- The worlds in which classes were derived, one after the other, from classes that were there, and in which
no number of fields was assigned, neither by the body of a class nor in between. -/
inductive IsPopulated : World κ → Prop
  | start : IsPopulated World.empty
  | between {world later : World κ} (populated : world.IsPopulated) (keeps : world.KeepsCounts later) :
    IsPopulated later
  | derive {world later : World κ} {identity : ClassId} {name qualifiedName : String} {written : List Value}
    {attributes annotations : Attributes} (populated : world.IsPopulated)
    (unassigned : attributes.get? arityName = none)
    (ran : outcome (Derivation.derive name qualifiedName written attributes annotations) world =
      (.ok identity, later))
    (there : ∀ made, later.record? identity = some made → ∀ base ∈ made.bases, world.HasClass base) :
    IsPopulated later

/-- Of the classes in a line, the first one with bases that subscribe the positional class has so many
arguments in the last one of them. -/
def SettlesCount (world : World κ) (line : List ClassId) (count : Nat) : Prop :=
  ∃ nearer first farther front arguments, line = nearer ++ first :: farther ∧
    (∀ ancestor ∈ nearer, world.positionalBases ancestor = []) ∧
    world.positionalBases first = front ++ [arguments] ∧ arguments.length = count

/-- In the line of a class, nothing has a constructor that it did not have before anything was done. -/
def KeepsConstructors (world : World κ) (identity : ClassId) : Prop :=
  ∀ ancestor ∈ world.ancestors identity, ∀ name ∈ ["__new__", "__init__"],
    world.ownAttribute? ancestor name = (World.empty : World κ).ownAttribute? ancestor name

instance (world : World κ) (identity : ClassId) : Decidable (world.KeepsConstructors identity) :=
  inferInstanceAs (Decidable (∀ ancestor ∈ world.ancestors identity, ∀ name ∈ ["__new__", "__init__"], _ = _))

variable {world later : World κ} {identity : ClassId}

/-- A number of fields as a value. -/
def countValue (count : Nat) : Value :=
  .integer count

/-- The number that the bases of a class note. -/
def notedCount? (world : World κ) (identity : ClassId) : Option Nat :=
  (world.positionalBases identity).getLast?.map List.length

theorem notedCount?_eq_none_iff : world.notedCount? identity = none ↔ world.positionalBases identity = [] := by
  rw [notedCount?, Option.map_eq_none_iff, List.getLast?_eq_none_iff]

theorem notedCount?_eq_some_iff {count : Nat} : world.notedCount? identity = some count ↔
    ∃ front arguments, world.positionalBases identity = front ++ [arguments] ∧ arguments.length = count := by
  simp only [notedCount?, Option.map_eq_some_iff, List.getLast?_eq_some_iff]
  exact ⟨fun ⟨arguments, ⟨front, last⟩, length⟩ => ⟨front, arguments, last, length⟩,
    fun ⟨front, arguments, last, length⟩ => ⟨arguments, ⟨front, last⟩, length⟩⟩

/-- The number that a line settles is the first one that is noted along it. -/
theorem settlesCount_iff {line : List ClassId} {count : Nat} :
    world.SettlesCount line count ↔ line.findSome? world.notedCount? = some count := by
  rw [List.findSome?_eq_some_iff]
  simp only [notedCount?_eq_some_iff, notedCount?_eq_none_iff]
  exact ⟨fun ⟨nearer, first, farther, front, arguments, cut, bare, last, length⟩ =>
      ⟨nearer, first, farther, cut, ⟨front, arguments, last, length⟩, bare⟩,
    fun ⟨nearer, first, farther, cut, ⟨front, arguments, last, length⟩, bare⟩ =>
      ⟨nearer, first, farther, front, arguments, cut, bare, last, length⟩⟩

/-- A step of a computation that adds no class keeps lines and bases, so it keeps the numbers of fields if it
assigns none. -/
theorem Step.keepsCounts (step : World.Step world later) (size : later.classes.size = world.classes.size)
    (closed : ∀ kind, kind.isOpen = false → later.extension kind = world.extension kind)
    (arity : ∀ identity, later.ownAttribute? identity arityName = world.ownAttribute? identity arityName) :
    world.KeepsCounts later := by
  have ofClasses {later : World κ} (classes : later.classes = world.classes) (identity : ClassId) :
      later.ancestors identity = world.ancestors identity ∧
        later.writtenBases? identity = world.writtenBases? identity := by
    cases identity <;> simp [World.ancestors, writtenBases?, World.record?, classes]
  have kept (identity : ClassId) : later.ancestors identity = world.ancestors identity ∧
      later.writtenBases? identity = world.writtenBases? identity := by
    cases step with
    | newObject | changedObject => exact ofClasses rfl identity
    | elsewhere classes => exact ofClasses classes identity
    | newClass => exact absurd size (by simp)
    | changedClass index change keeps =>
      cases identity with
      | builtin kind => exact ⟨rfl, rfl⟩
      | defined place =>
        simp only [World.ancestors, writtenBases?, World.record?, Array.getElem?_modify]
        cases found : world.classes[place]? with
        | none => simp
        | some record =>
          obtain ⟨⟨-, writtenBases, ancestors, -, -⟩, -⟩ := keeps record
          by_cases here : index = place <;> simp [here, writtenBases, ancestors]
  exact ⟨size, fun identity => (kept identity).1, fun identity => (kept identity).2, closed, arity⟩

/-! ### What such worlds have in common -/

/-- Lines are in order, and the numbers of fields that classes have of their own are those that their bases
note. -/
structure IsCounted (world : World κ) : Prop where
  ordered : world.HasOrderedLines
  closed : world.IsClosed
  own : ∀ identity, identity ≠ .builtin .positional →
    world.ownAttribute? identity arityName = (world.notedCount? identity).map countValue
  positional : world.ownAttribute? (.builtin .positional) arityName = some .none
  inLine : ∀ identity, world.positionalBases identity ≠ [] →
    .builtin .positional ∈ world.ancestors identity

theorem positionalBases_builtin (world : World κ) (kind : BuiltinClass) :
    world.positionalBases (.builtin kind) = [] :=
  rfl

theorem isCounted_empty : (World.empty : World κ).IsCounted := by
  refine ⟨hasOrderedLines_empty, fun _ _ => rfl, fun identity other => ?_, rfl, fun identity some_ => ?_⟩
  · cases identity with
    | defined index => rfl
    | builtin kind => cases kind <;> first
      | exact absurd rfl other
      | rfl
  · cases identity <;> exact absurd rfl some_

theorem IsCounted.of_keeps (counted : world.IsCounted) (keeps : world.KeepsCounts later) :
    later.IsCounted := by
  have bases (identity : ClassId) : later.positionalBases identity = world.positionalBases identity := by
    rw [positionalBases, keeps.writtenBases, positionalBases]
  refine ⟨counted.ordered.of_same keeps.size keeps.ancestors, fun kind isClosed => ?_,
    fun identity other => ?_, ?_, fun identity some_ => ?_⟩
  · rw [keeps.closed kind isClosed, counted.closed kind isClosed]
  · rw [keeps.arity, counted.own identity other, notedCount?, notedCount?, bases]
  · rw [keeps.arity, counted.positional]
  · rw [keeps.ancestors]
    exact counted.inLine identity (bases identity ▸ some_)

end World

namespace Derivation

variable {world later : World κ} {identity : ClassId} {name qualifiedName : String} {written : List Value}
  {attributes annotations : Attributes}

/-- The record of a derived class is what was made of its definition, and all others stay. -/
theorem exists_record?_of_derive
    (ran : outcome (derive name qualifiedName written attributes annotations) world =
      (.ok identity, later)) :
    ∃ made, record world (.defined world.classes.size) name qualifiedName written attributes annotations =
        .ok made ∧
      later.record? identity = some made ∧
      ∀ other, other ≠ identity → later.record? other = world.record? other := by
  obtain ⟨made, derived, rfl, rfl⟩ := exists_record_of_derive ran
  refine ⟨made, derived, by simp [World.record?], fun other different => ?_⟩
  cases other with
  | builtin kind => rfl
  | defined place =>
    have apart : place ≠ world.classes.size := fun same => different (congrArg _ same)
    simp [World.record?, Array.getElem?_push, apart]

/-- The bases that subscribe the positional class are those that the class was derived from. -/
theorem positionalBases_of_derive
    (ran : outcome (derive name qualifiedName written attributes annotations) world =
      (.ok identity, later)) : later.positionalBases identity = positionalBases written := by
  obtain ⟨made, derived, isMade, -⟩ := exists_record?_of_derive ran
  obtain ⟨resolved, classes, line, parameters, -, -, -, rfl⟩ := exists_of_record derived
  rw [World.positionalBases, World.writtenBases?, isMade]
  exact positionalBases_writtenBases written

/-- A derived class notes the number of its own bases, and no other class notes another one. -/
theorem isCounted_of_derive (counted : world.IsCounted) (unassigned : attributes.get? arityName = none)
    (ran : outcome (derive name qualifiedName written attributes annotations) world =
      (.ok identity, later))
    (there : ∀ made, later.record? identity = some made → ∀ base ∈ made.bases, world.HasClass base) :
    later.IsCounted := by
  have derives := derives_of_derive ran
  have ofIdentity := positionalBases_of_derive ran
  obtain ⟨made, derived, isMade, others⟩ := exists_record?_of_derive ran
  have same (other : ClassId) (different : other ≠ identity) :
      later.positionalBases other = world.positionalBases other := by
    rw [World.positionalBases, World.writtenBases?, others other different, World.positionalBases,
      World.writtenBases?]
  refine ⟨hasOrderedLines_of_derive counted.ordered ran there, fun kind isClosed => ?_,
    fun other notPositional => ?_, ?_, fun other some_ => ?_⟩
  · rw [derives.closed, counted.closed kind isClosed]
  · by_cases here : other = identity
    · have own : later.ownAttribute? identity arityName = made.attributes.get? arityName := by
        rw [derives.isNew] at isMade ⊢
        exact congrArg (Option.bind · _) isMade
      rw [here, own, get?_arity_of_record derived, unassigned, World.notedCount?, ofIdentity, Option.or_none,
        Option.map_map]
      rfl
    · rw [derives.own other _ here, counted.own other notPositional, World.notedCount?, World.notedCount?,
        same other here]
  · rw [derives.own _ _ (derives.isNew ▸ nofun), counted.positional]
  · by_cases here : other = identity
    · have line : later.ancestors identity = made.ancestors := by
        rw [derives.isNew] at isMade ⊢
        have found : later.classes[world.classes.size]? = some made := isMade
        simp only [World.ancestors, found]
      rw [here, ofIdentity] at some_
      rw [here, line]
      exact List.mem_of_elem_eq_true (elem_ancestors_of_positionalBases derived some_)
    · rw [derives.ancestors other here]
      exact counted.inLine other (same other here ▸ some_)

end Derivation

theorem World.IsPopulated.isCounted {world : World κ} (populated : world.IsPopulated) :
    world.IsCounted := by
  induction populated with
  | start => exact World.isCounted_empty
  | between _ keeps counted => exact counted.of_keeps keeps
  | derive _ unassigned ran there counted => exact Derivation.isCounted_of_derive counted unassigned ran there

/-! ### Along a line with the positional class -/

/-- What is kept in its order behind an element stands behind the place where it comes, if that is one. -/
theorem sublist_behind {α : Type} {element : α} {list front behind : List α}
    (kept : (element :: list).Sublist (front ++ element :: behind))
    (nodup : (front ++ element :: behind).Nodup) : list.Sublist behind := by
  induction front with
  | nil => exact List.cons_sublist_cons.1 kept
  | cons first rest inductionHypothesis =>
    obtain ⟨notAgain, nodup⟩ := List.nodup_cons.1 nodup
    cases kept with
    | cons _ kept => exact inductionHypothesis kept nodup
    | cons_cons _ _ => exact absurd (List.mem_append_right _ List.mem_cons_self) notAgain

/-- A built-in class with the positional class in its line is this class. -/
theorem BuiltinClass.eq_positional {kind : BuiltinClass} (inside : .positional ∈ kind.ancestors) :
    kind = .positional := by
  rcases kind.ancestors_eq_or_mem_layered with ⟨-, line⟩ | among
  · rw [line] at inside
    rcases List.mem_cons.1 inside with same | behind
    · exact same.symm
    · exact nomatch List.mem_singleton.1 behind
  · have all : ∀ kind ∈ layered, .positional ∈ kind.ancestors → kind = .positional := by decide
    exact all kind among inside

namespace World

variable {world : World κ} {identity : ClassId}

theorem hasClass_of_mem_ancestors {ancestor : ClassId} (inside : ancestor ∈ world.ancestors identity) :
    world.HasClass identity := by
  cases identity with
  | builtin kind => trivial
  | defined index =>
    unfold World.ancestors at inside
    dsimp only at inside
    split at inside
    · next record found => exact (Array.getElem?_eq_some_iff.1 found).1
    · exact nomatch inside

/-- The line of a class that has the positional class in it. In front of that class stand neither the class
of lists nor that of all objects, and behind it no class subscribes it. -/
structure IsCut (world : World κ) (identity : ClassId) (front behind : List ClassId) : Prop where
  line : world.ancestors identity = front ++ .builtin .positional :: behind
  others : ∀ kind, .builtin kind ∈ front → kind ≠ .positional ∧ kind ≠ .list ∧ kind ≠ .object
  objects : .builtin .object ∈ behind
  bare : ∀ ancestor ∈ behind, world.positionalBases ancestor = []

theorem IsCut.inside {front behind : List ClassId} (cut : world.IsCut identity front behind) :
    .builtin .positional ∈ world.ancestors identity :=
  cut.line ▸ List.mem_append_right _ List.mem_cons_self

theorem IsCounted.exists_isCut (counted : world.IsCounted)
    (inside : .builtin .positional ∈ world.ancestors identity) :
    ∃ front behind, world.IsCut identity front behind := by
  obtain ⟨-, nodup, there, keeps⟩ := counted.ordered.isOrdered identity (hasClass_of_mem_ancestors inside)
  obtain ⟨front, behind, line⟩ := List.append_of_mem inside
  obtain ⟨-, notAgain, apart⟩ := List.nodup_append.1 (line ▸ nodup)
  have kept : [ClassId.builtin .list, .builtin .object].Sublist behind :=
    sublist_behind (line ▸ keeps _ inside) (line ▸ nodup)
  have different {kind other : BuiltinClass} (among : .builtin kind ∈ front)
      (later : .builtin other ∈ ClassId.builtin .positional :: behind) : kind ≠ other :=
    fun same => apart _ among _ later (congrArg _ same)
  refine ⟨front, behind, line, fun kind among => ⟨different among List.mem_cons_self,
    different among (List.mem_cons_of_mem _ (kept.subset List.mem_cons_self)),
    different among (List.mem_cons_of_mem _ (kept.subset (by simp)))⟩, kept.subset (by simp),
    fun ancestor among => ?_⟩
  -- The line of a class that subscribes the positional one goes on to it, but here it lies in front.
  by_contra some_
  have onLine : ancestor ∈ world.ancestors identity :=
    line ▸ List.mem_append_right _ (List.mem_cons_of_mem _ among)
  obtain ⟨rest, head⟩ := (counted.ordered.isOrdered ancestor (there ancestor onLine)).head
  have goesOn : ClassId.builtin .positional ∈ rest := by
    refine (List.mem_cons.1 (head ▸ counted.inLine ancestor some_)).resolve_left ?_
    rintro rfl
    exact some_ rfl
  obtain ⟨near, far, cut⟩ := List.append_of_mem among
  have whole : world.ancestors identity = (front ++ .builtin .positional :: near) ++ ancestor :: far := by
    rw [line, cut, List.append_assoc, List.cons_append]
  have later := (sublist_behind (whole ▸ head ▸ keeps ancestor onLine) (whole ▸ nodup)).subset goesOn
  refine (List.nodup_cons.1 notAgain).1 ?_
  rw [cut]
  exact List.mem_append_right _ (List.mem_cons_of_mem _ later)

section Cut

variable {front behind : List ClassId} (cut : world.IsCut identity front behind)

include cut

/-- The number that a class finds is the first one that is noted along its line. -/
theorem IsCut.arityOf (counted : world.IsCounted) : Positional.arityOf world identity =
    (((world.ancestors identity).findSome? world.notedCount?).map countValue).getD .none := by
  have ofFront : (front.findSome? fun ancestor => world.ownAttribute? ancestor arityName) =
      (front.findSome? world.notedCount?).map countValue := by
    rw [List.map_findSome?]
    refine findSome?_congr fun ancestor among => counted.own ancestor ?_
    rintro rfl
    exact (cut.others _ among).1 rfl
  have ofPositional : world.notedCount? (.builtin .positional) = none := rfl
  have ofBehind : behind.findSome? world.notedCount? = none :=
    List.findSome?_eq_none_iff.2 fun ancestor among => notedCount?_eq_none_iff.2 (cut.bare ancestor among)
  have found : world.classAttribute? identity arityName =
      ((front.findSome? world.notedCount?).map countValue).or (some .none) := by
    rw [classAttribute?, cut.line, List.findSome?_append, ofFront, List.findSome?_cons, counted.positional]
  have noProperty : world.classProperty? identity arityName = none := rfl
  rw [Positional.arityOf, attributeOfClass?, noProperty, found, cut.line, List.findSome?_append,
    List.findSome?_cons, ofPositional, ofBehind]
  cases front.findSome? world.notedCount? <;> rfl

variable (keeps : world.KeepsConstructors identity)

include keeps

/-- Instances are completed by the positional class. -/
theorem IsCut.classAttribute?_init :
    world.classAttribute? identity "__init__" = some (.primitive .fillPositional) := by
  have own (ancestor : ClassId) (among : ancestor ∈ world.ancestors identity) :=
    keeps ancestor among "__init__" (by simp)
  rw [cut.line] at own
  refine List.findSome?_eq_some_iff.2 ⟨front, .builtin .positional, behind, cut.line, ?_, fun ancestor among => ?_⟩
  · exact own _ (List.mem_append_right _ List.mem_cons_self)
  · rw [own ancestor (List.mem_append_left _ among)]
    cases ancestor with
    | defined index => rfl
    | builtin kind =>
      obtain ⟨notPositional, notList, notObject⟩ := cut.others kind among
      cases kind <;> first
        | rfl
        | contradiction

/-- Instances are made by the class of all objects. -/
theorem IsCut.classAttribute?_new :
    world.classAttribute? identity "__new__" = some (.staticMethod (.primitive .newObject)) := by
  have own (ancestor : ClassId) (among : ancestor ∈ world.ancestors identity) :
      world.ownAttribute? ancestor "__new__" =
        if ancestor = .builtin .object then some (.staticMethod (.primitive .newObject)) else none := by
    rw [keeps ancestor among "__new__" (by simp)]
    cases ancestor with
    | defined index => rfl
    | builtin kind => cases kind <;> rfl
  have objects : ClassId.builtin .object ∈ world.ancestors identity :=
    cut.line ▸ List.mem_append_right _ (List.mem_cons_of_mem _ cut.objects)
  obtain ⟨nearer, farther, line, first⟩ := List.eq_append_cons_of_mem objects
  refine List.findSome?_eq_some_iff.2 ⟨nearer, _, farther, line, own _ objects, fun ancestor among => ?_⟩
  rw [own ancestor (line ▸ List.mem_append_left _ among), if_neg]
  rintro rfl
  exact first among

omit keeps in
/-- Instances are lists. -/
theorem IsCut.layout (counted : world.IsCounted) : world.layout identity = .list := by
  have isBase : IsBase identity := by
    cases identity with
    | defined index => trivial
    | builtin kind =>
      obtain ⟨other, among, same⟩ := List.mem_map.1 cut.inside
      cases same
      rw [BuiltinClass.eq_positional among]
      rfl
  exact counted.ordered.hasOneLayout identity (hasClass_of_mem_ancestors cut.inside) isBase _
    (mem_layoutsOf.2 ⟨nofun, _, cut.inside, rfl⟩)

end Cut

end World

/-! ### Making an instance -/

/-- A computation whose value is not asked for ends as it does. -/
theorem Run.outcome_discard {α : Type} {computation : Run κ α} {world later : World κ}
    {ending : Except Failure α} (ran : outcome computation world = (ending, later)) :
    outcome (discard computation) world = (ending.map fun _ => (), later) := by
  cases ending with
  | ok value => exact Run.outcome_bind_of_ok (fun _ => pure ()) ran
  | error failure => exact Run.outcome_bind_of_error (fun _ => pure ()) ran

/-- An integer is described by its digits. -/
theorem Description.outcome_describe_integer {world : World κ} (closed : world.IsClosed)
    (behaviour : Contract.Behaviour κ) (depth : Nat) (number : Int) :
    outcome (Description.describe (Evaluation.callWithin behaviour (depth + 2)) (.integer number)) world =
      (.ok (Text.ofString (toString number)), world) := by
  have content : outcome (Evaluation.callWithin behaviour (depth + 1) (.primitive .describeContent)
      ⟨[.integer number], []⟩) world = (.ok (.text (Text.ofString (toString number))), world) := rfl
  have method : world.classAttribute? (world.classOf (.integer number)) "__repr__" =
      some (.primitive .describeContent) := by
    have own : world.ownAttribute? (.builtin .integer) "__repr__" = _ :=
      World.ownAttribute?_closed closed rfl "__repr__"
    have line : world.ancestors (.builtin .integer) = [.builtin .integer, .builtin .object] := rfl
    change world.classAttribute? (.builtin .integer) "__repr__" = _
    rw [World.classAttribute?, line, List.findSome?_cons, own]
    rfl
  have asks : outcome (Comparison.ask (Evaluation.callWithin behaviour (depth + 1)) "__repr__"
      (.integer number) []) world = (.ok (.text (Text.ofString (toString number))), world) := by
    unfold Comparison.ask
    rw [Run.outcome_get_bind, method]
    exact content
  have calls : outcome (Evaluation.callWithin behaviour (depth + 2) (.primitive .describe)
      ⟨[.integer number], []⟩) world = (.ok (.text (Text.ofString (toString number))), world) :=
    (Run.outcome_bind_of_ok _ asks).trans rfl
  exact (Run.outcome_bind_of_ok _ calls).trans rfl

namespace Positional

/-- The world with one more list, an instance of a class. -/
def withInstance (world : World κ) (identity : ClassId) (items : List Value) : World κ :=
  { world with objects := world.objects.push ⟨identity, .items items, []⟩ }

variable {world : World κ} {identity : ClassId} {call : Caller κ} {items : List Value}

theorem getElem?_withInstance (world : World κ) (identity : ClassId) (items : List Value) :
    (withInstance world identity items).objects[world.objects.size]? = some ⟨identity, .items items, []⟩ :=
  Array.getElem?_push_size

/-- Where there is a new list, it can be given other items. -/
theorem outcome_put_withInstance (before items : List Value) :
    outcome (Sequence.put (.object world.objects.size) items) (withInstance world identity before) =
      (.ok (), withInstance world identity items) := by
  have there := getElem?_withInstance world identity before
  have found : outcome (Run.object world.objects.size) (withInstance world identity before) =
      (.ok ⟨identity, .items before, []⟩, withInstance world identity before) := by
    unfold Run.object
    rw [Run.outcome_get_bind, there]
    rfl
  have changed : (world.objects.push ⟨identity, .items before, []⟩).modify world.objects.size
      (·.withItems items) = world.objects.push ⟨identity, .items items, []⟩ := by
    refine Array.ext_getElem? fun place => ?_
    rw [Array.getElem?_modify, Array.getElem?_push, Array.getElem?_push]
    by_cases last : place = world.objects.size
    · simp [last, Object.withItems]
    · simp [last, Ne.symm last]
  unfold Sequence.put
  refine (Run.outcome_bind_of_ok _ found).trans ?_
  exact congrArg (fun objects => (Except.ok (), { world with objects := objects })) changed

/-- An instance that was made is completed by putting the items into it, once their number was checked. -/
theorem outcome_fill {ending : Except Failure Unit}
    (checked : outcome (checkCount call (.object world.objects.size) items) (withInstance world identity []) =
      (ending, withInstance world identity [])) :
    outcome (fill call ⟨.object world.objects.size :: items, []⟩) (withInstance world identity []) =
      (ending.map fun _ => .none, withInstance world identity (if ending.isOk then items else [])) := by
  unfold fill
  cases ending with
  | error failure => exact Run.outcome_bind_of_error _ checked
  | ok _ =>
    exact (Run.outcome_bind_of_ok _ checked).trans
      ((Run.outcome_bind_of_ok _ (outcome_put_withInstance [] items)).trans rfl)

end Positional

namespace Instance

open Positional (withInstance)

variable {world : World κ} {identity : ClassId} {behaviour : Contract.Behaviour κ}

/-- A call of a class with the positional class in its line makes an empty list of this class, which is then
completed by the positional class. -/
theorem outcome_construct_of_isCut {front behind : List ClassId} (counted : world.IsCounted)
    (cut : world.IsCut identity front behind) (keeps : world.KeepsConstructors identity) (call : Caller κ)
    (items : List Value) {ending : Except Failure Value} {later : World κ}
    (filled : outcome (call (.primitive .fillPositional) ⟨.object world.objects.size :: items, []⟩)
      (withInstance world identity []) = (ending, later)) :
    outcome (construct call identity ⟨items, []⟩) world =
      (ending.map fun _ => .object world.objects.size, later) := by
  have made : outcome (make call identity ⟨items, []⟩) world =
      (.ok (.object world.objects.size), withInstance world identity []) := by
    unfold make
    rw [Run.outcome_get_bind, cut.layout counted]
    rfl
  have self : (withInstance world identity []).isSubclass
      ((withInstance world identity []).classOf (.object world.objects.size)) identity = true := by
    have isInstance : (withInstance world identity []).classOf (.object world.objects.size) = identity := by
      simp [World.classOf, Positional.getElem?_withInstance]
    have line : (withInstance world identity []).ancestors identity = world.ancestors identity := rfl
    obtain ⟨rest, head⟩ := (counted.ordered.isOrdered identity (World.hasClass_of_mem_ancestors cut.inside)).head
    rw [isInstance, World.isSubclass, line, head]
    exact List.elem_eq_true_of_mem List.mem_cons_self
  have completed : outcome (complete call identity (.object world.objects.size) ⟨items, []⟩)
      (withInstance world identity []) = (ending.map fun _ => (), later) := by
    have method : (withInstance world identity []).classAttribute? identity "__init__" =
        some (.primitive .fillPositional) := cut.classAttribute?_init keeps
    unfold complete
    rw [Run.outcome_get_bind, method]
    exact Run.outcome_discard filled
  have notType : identity ≠ .builtin .type := by
    rintro rfl
    obtain ⟨kind, among, same⟩ := List.mem_map.1 cut.inside
    cases same
    exact nomatch BuiltinClass.eq_positional among
  unfold construct
  rw [Run.outcome_get_bind]
  split
  · exact absurd rfl notType
  · rw [cut.classAttribute?_new keeps]
    refine (Run.outcome_bind_of_ok _ made).trans ?_
    rw [Run.outcome_get_bind, if_pos self]
    cases ending with
    | ok value => exact (Run.outcome_bind_of_ok _ completed).trans rfl
    | error failure => exact Run.outcome_bind_of_error _ completed

end Instance

namespace Positional

variable {world : World κ} {identity : ClassId}

/-- The failure when a class with a number of fields is given another number of items. -/
def countFailure (world : World κ) (identity : ClassId) (count : Nat) (items : List Value) : Failure :=
  .wrongCount (Text.ofString (world.className identity)) (Text.ofString (toString count)) items.length

/-- What comes of comparing the number of items with the one that was noted. -/
def countVerdict (world : World κ) (identity : ClassId) (items : List Value) : Option Nat → Except Failure Unit
  | none => .ok ()
  | some count => if items.length = count then .ok () else .error (countFailure world identity count items)

theorem countVerdict_eq_ok_iff {items : List Value} {noted : Option Nat} :
    countVerdict world identity items noted = .ok () ↔ noted = none ∨ noted = some items.length := by
  cases noted with
  | none => simp [countVerdict]
  | some count =>
    by_cases fits : items.length = count
    · simp [countVerdict, fits]
    · simp [countVerdict, fits, Ne.symm fits]

theorem countVerdict_eq_error_iff {items : List Value} {noted : Option Nat} {failure : Failure} :
    countVerdict world identity items noted = .error failure ↔
      ∃ count, noted = some count ∧ count ≠ items.length ∧ failure = countFailure world identity count items := by
  cases noted with
  | none => simp [countVerdict]
  | some count =>
    by_cases fits : items.length = count
    · simp [countVerdict, fits]
    · simp [countVerdict, fits, Ne.symm fits, eq_comm]

theorem keepsCounts_withInstance (world : World κ) (identity : ClassId) (items : List Value) :
    world.KeepsCounts (withInstance world identity items) :=
  ⟨rfl, fun _ => rfl, fun _ => rfl, fun _ _ => rfl, fun _ => rfl⟩

section Counted

variable (counted : world.IsCounted) (inside : .builtin .positional ∈ world.ancestors identity)
  (behaviour : Contract.Behaviour κ) (depth : Nat) (items : List Value)

include counted inside

/-- Whether items are taken depends on the first number alone that is noted along the line of the class. -/
theorem outcome_checkCount_withInstance :
    outcome (checkCount (Evaluation.callWithin behaviour (depth + 2)) (.object world.objects.size) items)
        (withInstance world identity []) =
      (countVerdict world identity items ((world.ancestors identity).findSome? world.notedCount?),
        withInstance world identity []) := by
  have still := counted.of_keeps (keepsCounts_withInstance world identity [])
  obtain ⟨front, behind, cut⟩ := still.exists_isCut inside
  have isInstance : (withInstance world identity []).classOf (.object world.objects.size) = identity := by
    simp [World.classOf, getElem?_withInstance]
  have arity : arityOf (withInstance world identity [])
      ((withInstance world identity []).classOf (.object world.objects.size)) =
        (((world.ancestors identity).findSome? world.notedCount?).map World.countValue).getD .none := by
    rw [isInstance]
    exact cut.arityOf still
  cases found : (world.ancestors identity).findSome? world.notedCount? with
  | none =>
    rw [found] at arity
    unfold checkCount
    rw [Run.outcome_get_bind]
    simp only [arity]
    rfl
  | some count =>
    rw [found] at arity
    rw [outcome_checkCount_eq arity, countVerdict]
    by_cases fits : items.length = count
    · rw [if_pos fits, if_pos fits]
    · have described := Description.outcome_describe_integer still.closed behaviour depth count
      rw [if_neg fits, if_neg fits]
      refine (Run.outcome_bind_of_ok _ described).trans ?_
      rw [isInstance]
      rfl

/-- A call makes an instance of the items, or it fails for their number. -/
theorem outcome_call (keeps : world.KeepsConstructors identity) {verdict : Except Failure Unit}
    (checks : countVerdict world identity items ((world.ancestors identity).findSome? world.notedCount?) = verdict) :
    outcome (Evaluation.callWithin behaviour (depth + 4) (.ofClass identity) ⟨items, []⟩) world =
      (verdict.map fun _ => .object world.objects.size,
        withInstance world identity (if verdict.isOk then items else [])) := by
  obtain ⟨front, behind, cut⟩ := counted.exists_isCut inside
  have checked := outcome_checkCount_withInstance counted inside behaviour depth items
  rw [checks] at checked
  have made := Instance.outcome_construct_of_isCut counted cut keeps
    (Evaluation.callWithin behaviour (depth + 3)) items (outcome_fill checked)
  cases verdict <;> exact made

end Counted

end Positional

end DifferenceTypes
