import DifferenceTypes.Proofs.Contract.Coherence

/-!
# Registrations

Leaf contracts are registered and taken away in any order, for any classes, and classes may be derived or
changed in between. What is looked up for a class, or for a class with arguments, follows from the last
operation on each of its ancestors: it is the leaf of the nearest one whose last operation registered
one. Operations on other classes have no part in it (`lookup_of_performed`).

That there is no leaf is said in an error, with the type's name. A class with arguments whose name is
empty is described instead, and its description may fail in its own way (`failure_of_nameless_alias`).
-/

namespace DifferenceTypes.Contract

open Run (outcome)

variable {κ : Type} {call : Caller κ} {world : World κ}

/-! ### Operations -/

/-- What is done to the leaf contracts for a class. -/
inductive RegistryOperation (κ : Type) where
  | register (type : ClassId) (contract : κ) (representation : Value)
  | unregister (type : ClassId)

namespace RegistryOperation

/-- The class for which something is done. -/
def type : RegistryOperation κ → ClassId
  | register type _ _ | unregister type => type

def perform (call : Caller κ) : RegistryOperation κ → Run κ Unit
  | register type contract representation => Contract.register call type contract representation
  | unregister type => Contract.unregister call type

/-- The leaf that the class has of its own afterwards. -/
def leaf? : RegistryOperation κ → Option (Leaf κ)
  | register type contract representation => some (leafOf type contract representation)
  | unregister _ => none

end RegistryOperation

/-- The worlds in which some operations were performed, the last first, since no leaf was there. Anything
may be done in between that leaves the registry alone. -/
inductive Performed (call : Caller κ) : List (RegistryOperation κ) → World κ → Prop
  | start {world : World κ} (empty : world.leaves = []) : Performed call [] world
  | between {operations : List (RegistryOperation κ)} {world later : World κ}
    (performed : Performed call operations world) (same : later.leaves = world.leaves) :
    Performed call operations later
  | perform {operations : List (RegistryOperation κ)} {world later : World κ}
    {ending : Except Failure Unit} (performed : Performed call operations world)
    (operation : RegistryOperation κ) (ran : outcome (operation.perform call) world = (ending, later)) :
    Performed call (operation :: operations) later

variable {operations : List (RegistryOperation κ)}

/-- The last operation on a class. -/
def latest? (operations : List (RegistryOperation κ)) (identity : ClassId) :
    Option (RegistryOperation κ) :=
  operations.find? (·.type == identity)

/-- The last operation on a class was to register a leaf. -/
def IsRegistered (operations : List (RegistryOperation κ)) (identity : ClassId) : Prop :=
  ∃ contract representation,
    latest? operations identity = some (.register identity contract representation)

/-- The leaf that operations give to a line of ancestors: the one that was registered last for the first
class whose last operation was to register one. -/
def Gives (operations : List (RegistryOperation κ)) (line : List ClassId) (leaf : Leaf κ) : Prop :=
  ∃ nearer first farther contract representation, line = nearer ++ first :: farther ∧
    (∀ ancestor ∈ nearer, ¬IsRegistered operations ancestor) ∧
    latest? operations first = some (.register first contract representation) ∧
    leaf = leafOf first contract representation

theorem latest?_cons (operation : RegistryOperation κ) (operations : List (RegistryOperation κ))
    (identity : ClassId) : latest? (operation :: operations) identity =
      if operation.type = identity then some operation else latest? operations identity := by
  unfold latest?
  rw [List.find?_cons]
  by_cases same : operation.type = identity
  · rw [if_pos same, beq_iff_eq.2 same]
  · rw [if_neg same, beq_eq_false_iff_ne.2 same]

theorem type_of_latest? {identity : ClassId} {operation : RegistryOperation κ}
    (last : latest? operations identity = some operation) : operation.type = identity := by
  unfold latest? at last
  have here := List.find?_some last
  exact beq_iff_eq.1 here

/-- The leaf of a class by its last operation. -/
theorem leaf?_of_latest? (identity : ClassId) (leaf : Leaf κ) :
    (latest? operations identity).bind RegistryOperation.leaf? = some leaf ↔
      ∃ contract representation,
        latest? operations identity = some (.register identity contract representation) ∧
          leaf = leafOf identity contract representation := by
  constructor
  · intro given
    obtain ⟨operation, last, gives⟩ := Option.bind_eq_some_iff.1 given
    have here := type_of_latest? last
    cases operation with
    | register type contract representation =>
      obtain rfl : type = identity := here
      exact ⟨contract, representation, last, (Option.some.inj gives).symm⟩
    | unregister type => exact nomatch gives
  · rintro ⟨contract, representation, last, rfl⟩
    rw [last]
    rfl

theorem leaf?_eq_none_iff (identity : ClassId) :
    (latest? operations identity).bind RegistryOperation.leaf? = none ↔
      ¬IsRegistered operations identity := by
  rw [Option.eq_none_iff_forall_ne_some]
  constructor
  · rintro absent ⟨contract, representation, last⟩
    exact absent _ ((leaf?_of_latest? identity _).2 ⟨contract, representation, last, rfl⟩)
  · intro unregistered leaf given
    obtain ⟨contract, representation, last, -⟩ := (leaf?_of_latest? identity leaf).1 given
    exact unregistered ⟨contract, representation, last⟩

/-- Operations on other classes do not count. -/
theorem latest?_filter {line : List ClassId} {identity : ClassId} (inside : identity ∈ line)
    (operations : List (RegistryOperation κ)) :
    latest? (operations.filter (·.type ∈ line)) identity = latest? operations identity := by
  induction operations with
  | nil => rfl
  | cons operation earlier inductionHypothesis =>
    rw [List.filter_cons, latest?_cons]
    by_cases same : operation.type = identity
    · rw [if_pos (decide_eq_true (same ▸ inside)), latest?_cons, if_pos same, if_pos same]
    · rw [if_neg same, ← inductionHypothesis]
      split
      · rw [latest?_cons, if_neg same]
      · rfl

/-! ### The leaves that are left -/

/-- The leaves are those of the classes whose last operation was to register one. -/
structure AreLeft (call : Caller κ) (operations : List (RegistryOperation κ))
    (leaves : List (Value × Leaf κ)) : Prop where
  isKeyed : IsKeyed call leaves
  classes : ∀ key ∈ leaves.map Prod.fst, ∃ identity : ClassId, key = identity
  own : ∀ identity, ownLeaf? leaves identity =
    (latest? operations identity).bind RegistryOperation.leaf?

/-- Classes are told apart in every world. -/
theorem tells_ofClass (world : World κ) (first second : ClassId) : Tells call world first second := by
  refine ⟨first == second, rfl, fun identity => ⟨fun same => ?_, fun apart here equal => ?_⟩⟩
  · rw [beq_iff_eq.1 same]
  · exact beq_eq_false_iff_ne.1 apart (Value.ofClass.inj (here.trans equal.symm))

namespace AreLeft

theorem nil : AreLeft call [] ([] : List (Value × Leaf κ)) :=
  ⟨.nil, fun _ among => absurd among List.not_mem_nil, fun _ => rfl⟩

theorem tells (areLeft : AreLeft call operations world.leaves) (identity : ClassId) :
    ∀ kept ∈ world.leaves.map Prod.fst, Tells call world kept identity := by
  intro kept among
  obtain ⟨other, rfl⟩ := areLeft.classes kept among
  exact tells_ofClass world other identity

/-- No operation fails, and the leaves that are left follow from it. -/
theorem exists_perform (areLeft : AreLeft call operations world.leaves)
    (operation : RegistryOperation κ) :
    ∃ leaves, outcome (operation.perform call) world = (.ok (), { world with leaves := leaves }) ∧
      AreLeft call (operation :: operations) leaves := by
  have own {leaves : List (Value × Leaf κ)} (changed : ∀ other : ClassId, ownLeaf? leaves other =
      if (operation.type : Value) = other then operation.leaf? else ownLeaf? world.leaves other) :
      ∀ identity, ownLeaf? leaves identity =
        (latest? (operation :: operations) identity).bind RegistryOperation.leaf? := by
    intro identity
    rw [changed, latest?_cons]
    by_cases same : operation.type = identity
    · rw [if_pos (congrArg Value.ofClass same), if_pos same]
      rfl
    · rw [if_neg (mt Value.ofClass.inj same), if_neg same, areLeft.own]
  cases operation with
  | register type contract representation =>
    obtain ⟨leaves, registers, isKeyed, changed, keys⟩ := exists_register_of_tells areLeft.isKeyed
      rfl (areLeft.tells type) (isComparable_ofClass type) contract representation
    refine ⟨leaves, registers, isKeyed, fun key among => ?_, own changed⟩
    rcases keys key among with rfl | before
    · exact ⟨type, rfl⟩
    · exact areLeft.classes key before
  | unregister type =>
    obtain ⟨leaves, unregisters, isKeyed, changed, keys⟩ :=
      exists_unregister_of_tells areLeft.isKeyed rfl (areLeft.tells type)
    exact ⟨leaves, unregisters, isKeyed, fun key among => areLeft.classes key (keys key among),
      own changed⟩

/-- The nearest leaf is the one that the operations give. -/
theorem nearestLeaf?_eq_some_iff {leaves : List (Value × Leaf κ)}
    (areLeft : AreLeft call operations leaves) (line : List ClassId) (leaf : Leaf κ) :
    nearestLeaf? leaves line = some leaf ↔ Gives operations line leaf := by
  unfold nearestLeaf? Gives
  rw [List.findSome?_eq_some_iff]
  simp only [areLeft.own, leaf?_of_latest?, leaf?_eq_none_iff]
  constructor
  · rintro ⟨nearer, first, farther, rfl, ⟨contract, representation, last, rfl⟩, unregistered⟩
    exact ⟨nearer, first, farther, contract, representation, rfl, unregistered, last, rfl⟩
  · rintro ⟨nearer, first, farther, contract, representation, rfl, unregistered, last, rfl⟩
    exact ⟨nearer, first, farther, rfl, ⟨contract, representation, last, rfl⟩, unregistered⟩

theorem nearestLeaf?_eq_none_iff {leaves : List (Value × Leaf κ)}
    (areLeft : AreLeft call operations leaves) (line : List ClassId) :
    nearestLeaf? leaves line = none ↔ ∀ ancestor ∈ line, ¬IsRegistered operations ancestor := by
  unfold nearestLeaf?
  simp only [List.findSome?_eq_none_iff, areLeft.own, leaf?_eq_none_iff]

end AreLeft

/-- After any operations the leaves that are left follow from them. -/
theorem Performed.areLeft (performed : Performed call operations world) :
    AreLeft call operations world.leaves := by
  induction performed with
  | start empty => exact empty ▸ .nil
  | between _ same areLeft => exact same ▸ areLeft
  | perform _ operation ran areLeft =>
    obtain ⟨leaves, performs, areLeftAfter⟩ := areLeft.exists_perform operation
    cases performs.symm.trans ran
    exact areLeftAfter

/-- Every operation can be performed next. -/
theorem Performed.exists_perform (performed : Performed call operations world)
    (operation : RegistryOperation κ) :
    ∃ leaves, Performed call (operation :: operations) { world with leaves := leaves } := by
  obtain ⟨leaves, performs, -⟩ := performed.areLeft.exists_perform operation
  exact ⟨leaves, performed.perform operation performs⟩

/-! ### Looking up afterwards -/

variable {form : Value} {identity : ClassId}

/-- A type that stands for a class is looked up under the ancestors of the class. -/
theorem keys_of_stands (world : World κ)
    (stands : form = identity ∨ TypeForm.origin? form = some (.ofClass identity)) :
    keys world form = (world.ancestors identity).map .ofClass := by
  rcases stands with rfl | origin
  · exact keys_ofClass world identity
  · unfold keys
    rw [origin]
    rfl

/-- Its name does not depend on the leaves. -/
theorem qualifiedName_of_stands (world : World κ) (leaves : List (Value × Leaf κ))
    (stands : form = identity ∨ TypeForm.origin? form = some (.ofClass identity)) :
    Access.get? { world with leaves := leaves } form "__qualname__" =
      Access.get? world form "__qualname__" := by
  rcases stands with rfl | origin
  · rfl
  · unfold TypeForm.origin? at origin
    split at origin <;> cases origin <;> rfl

/-- Nor does the text that an error says of it, if it is a class itself or has a name. -/
theorem exists_text_of_stands (behaviour : Behaviour κ) (closed : world.IsClosed)
    (stands : form = identity ∨ TypeForm.origin? form = some (.ofClass identity))
    (named : form = identity ∨ ∃ name : Text,
      Access.get? world form "__qualname__" = some (.text name) ∧ name ≠ []) :
    ∃ text, ∀ leaves, outcome (Description.ofType (Evaluation.call behaviour)
        (Access.get? { world with leaves := leaves } form "__qualname__") form)
        { world with leaves := leaves } = (.ok text, { world with leaves := leaves }) := by
  rcases named with rfl | ⟨name, found, notEmpty⟩
  · have stillClosed (leaves : List (Value × Leaf κ)) :
        World.IsClosed { world with leaves := leaves } := closed
    exact ⟨typeText world identity, fun leaves =>
      outcome_ofType_ofClass behaviour (stillClosed leaves) identity⟩
  · refine ⟨name, fun leaves => ?_⟩
    rw [qualifiedName_of_stands world leaves stands, found]
    exact outcome_ofType_of_name _ notEmpty form _

/-- What a look-up comes to after any operations: the leaf that is found, or the error with a text. -/
theorem Performed.outcome_lookup {text : Text} (performed : Performed call operations world)
    (closed : world.IsClosed)
    (stands : form = identity ∨ TypeForm.origin? form = some (.ofClass identity))
    (described : outcome (Description.ofType call (Access.get? world form "__qualname__") form) world =
      (.ok text, world)) :
    outcome (lookup call form) world =
      ((nearestLeaf? world.leaves (world.ancestors identity)).elim
        (.error (.noContract text)) .ok, world) := by
  have line := keys_of_stands world stands
  have isKeyed := performed.areLeft.isKeyed
  cases nearest : nearestLeaf? world.leaves (world.ancestors identity) with
  | some leaf => exact lookup_of_nearestLeaf?_of_keys closed isKeyed line nearest
  | none => exact lookup_of_no_leaf_of_keys closed isKeyed line nearest described

/-- After any operations on classes, the last first, no further one fails. What is looked up for a class,
or for a class with arguments, is the leaf that was registered last for its first ancestor whose last
operation was to register one; exactly if there is no such ancestor it fails for want of a contract. It
is the same after any other operations that have the same ones on its ancestors among them.

A class with arguments must have a name that is not empty, since it is described otherwise, and its
description may fail. -/
theorem lookup_of_performed (behaviour : Behaviour κ)
    (performed : Performed (Evaluation.call behaviour) operations world) (closed : world.IsClosed)
    (stands : form = identity ∨ TypeForm.origin? form = some (.ofClass identity))
    (named : form = identity ∨ ∃ name : Text,
      Access.get? world form "__qualname__" = some (.text name) ∧ name ≠ []) :
    (∀ operation : RegistryOperation κ, ∃ leaves,
      outcome (operation.perform (Evaluation.call behaviour)) world =
        (.ok (), { world with leaves := leaves })) ∧
    (∀ leaf, outcome (lookup (Evaluation.call behaviour) form) world = (.ok leaf, world) ↔
      Gives operations (world.ancestors identity) leaf) ∧
    ((∃ text, outcome (lookup (Evaluation.call behaviour) form) world =
        (.error (.noContract text), world)) ↔
      ∀ ancestor ∈ world.ancestors identity, ¬IsRegistered operations ancestor) ∧
    ∀ others leaves, Performed (Evaluation.call behaviour) others { world with leaves := leaves } →
      others.filter (·.type ∈ world.ancestors identity) =
        operations.filter (·.type ∈ world.ancestors identity) →
      (outcome (lookup (Evaluation.call behaviour) form) { world with leaves := leaves }).1 =
        (outcome (lookup (Evaluation.call behaviour) form) world).1 := by
  obtain ⟨text, described⟩ := exists_text_of_stands behaviour closed stands named
  have looksUp := performed.outcome_lookup closed stands (described world.leaves)
  have areLeft := performed.areLeft
  refine ⟨fun operation => ?_, fun leaf => ?_, ?_, fun others leaves alsoPerformed same => ?_⟩
  · obtain ⟨leaves, performs, -⟩ := areLeft.exists_perform operation
    exact ⟨leaves, performs⟩
  · rw [← areLeft.nearestLeaf?_eq_some_iff, looksUp]
    cases nearestLeaf? world.leaves (world.ancestors identity) <;> simp
  · rw [← areLeft.nearestLeaf?_eq_none_iff, looksUp]
    cases nearestLeaf? world.leaves (world.ancestors identity) <;> simp
  · have alsoLooksUp := alsoPerformed.outcome_lookup closed stands (described leaves)
    have line : World.ancestors { world with leaves := leaves } identity = world.ancestors identity := rfl
    have nearest : nearestLeaf? leaves (world.ancestors identity) =
        nearestLeaf? world.leaves (world.ancestors identity) :=
      nearestLeaf?_congr fun ancestor inside => by
        rw [areLeft.own, alsoPerformed.areLeft.own, ← latest?_filter inside operations,
          ← latest?_filter inside others, same]
    rw [looksUp, alsoLooksUp, line, nearest]

/-- A positional class `P` and a class `Q` derived from it. -/
def lineWorld : World SessionContract :=
  (outcome (do
    let parent ← Derivation.derive "P" "P" [.builtin .positional] [] []
    Derivation.derive "Q" "Q" [.ofClass parent] [] []) World.empty).2

/-- When the leaf of `Q` is taken away, `Q[int]` has the leaf of `P`, whose differences are texts. -/
theorem lookup_of_uncovered_parent : ∃ operations world contract,
    Performed (Evaluation.call SessionContract.behaviour) operations world ∧ world.IsClosed ∧
      latest? operations (.defined 1) = some (.unregister (.defined 1)) ∧
      outcome (lookup (Evaluation.call SessionContract.behaviour)
        (.subscribed (.defined 1) [.builtin .integer])) world =
          (.ok ⟨.builtin .text, contract⟩, world) := by
  let contract : SessionContract := ⟨.replacement, .none, [], none⟩
  have start : Performed (Evaluation.call SessionContract.behaviour) [] lineWorld := .start rfl
  obtain ⟨_, registered⟩ := start.exists_perform (.register (.defined 0) contract (.builtin .text))
  obtain ⟨_, covered⟩ := registered.exists_perform (.register (.defined 1) contract .none)
  obtain ⟨_, uncovered⟩ := covered.exists_perform (.unregister (.defined 1))
  refine ⟨_, _, contract, uncovered, fun _ _ => rfl, rfl,
    ((lookup_of_performed SessionContract.behaviour uncovered (fun _ _ => rfl) (.inr rfl)
      (.inr ⟨"Q", rfl, by decide⟩)).2.1 _).2 ?_⟩
  refine ⟨[.defined 1], .defined 0, [.builtin .positional, .builtin .list, .builtin .object], contract,
    .builtin .text, rfl, ?_, rfl, rfl⟩
  rintro ancestor inside ⟨other, representation, last⟩
  obtain rfl := List.mem_singleton.1 inside
  exact nomatch last

/-- A record class `P`, an instance of it whose field has no value, and a class without a name. -/
def namelessWorld : World SessionContract :=
  (outcome (do
    let record ← Derivation.derive "P" "P" [] [] [("x", .builtin .integer)]
    let _ ← Record.make {} record
    let _ ← Run.create ⟨record, .plain, []⟩
    Derivation.derive "" "" [.builtin .positional] [] []) World.empty).2

/-- No leaf is there for the class without a name. If it is given the instance for an argument, then the
look-up fails, but not for want of a contract: the instance cannot be described. -/
theorem failure_of_nameless_alias :
    Performed (Evaluation.call SessionContract.behaviour) [] namelessWorld ∧
      TypeForm.origin? (.subscribed (.defined 1) [.object 0]) = some (.ofClass (.defined 1)) ∧
      (∀ ancestor ∈ namelessWorld.ancestors (.defined 1),
        ¬IsRegistered ([] : List (RegistryOperation SessionContract)) ancestor) ∧
      (outcome (lookup (Evaluation.call SessionContract.behaviour)
        (.subscribed (.defined 1) [.object 0])) namelessWorld).1 = .error .missingAttribute :=
  ⟨.start rfl, rfl, fun _ _ ⟨_, _, registered⟩ => (nomatch registered), rfl⟩

end DifferenceTypes.Contract
