import DifferenceTypes.Contract.Dispatch
import DifferenceTypes.Proofs.Object.ClassAttributes

/-!
# Leaf contracts of classes

What registering a leaf contract, taking it away and looking it up come to for the classes. A class is a
key by its identity, and every other key is taken to be told apart from the classes without more being
done for it than comparing, as all keys are whose own class defines no equality with classes. A class
then has the leaf that was registered for it last, and a look-up gives the leaf of the nearest ancestor
that has one.
-/

namespace DifferenceTypes.Contract

open Run (outcome)

variable {κ : Type} {call : Caller κ} {leaves : List (Value × Leaf κ)} {world : World κ}

/-- The leaf that is registered under a class itself. -/
def ownLeaf? (leaves : List (Value × Leaf κ)) (identity : ClassId) : Option (Leaf κ) :=
  leaves.lookup (.ofClass identity)

/-- The leaf that is registered for a type: its differences are of the type itself if no other type is
given. -/
def leafOf (type : Value) (contract : κ) (representation : Value) : Leaf κ :=
  ⟨if representation.same .none then type else representation, contract⟩

/-! ### Keys -/

/-- Comparing a key with a class tells whether it is that class, and does nothing else. -/
def IsComparable (call : Caller κ) (key : Value) : Prop :=
  ∀ (identity : ClassId) (world : World κ), world.IsClosed →
    outcome (isSameKey call key identity) world = (.ok (key == identity), world)

/-- Leaves under comparable keys, each class being the key of one of them at most. -/
structure IsKeyed (call : Caller κ) (leaves : List (Value × Leaf κ)) : Prop where
  comparable : ∀ key ∈ leaves.map Prod.fst, IsComparable call key
  distinct : (leaves.map Prod.fst).Pairwise fun first second : Value =>
    ∀ identity : ClassId, first = identity → second ≠ identity

theorem isComparable_ofClass (first : ClassId) : IsComparable call first := by
  intro second world _
  have same : ((first : Value) == (second : Value)) = (first == second) := by
    rw [Bool.eq_iff_iff, beq_iff_eq, beq_iff_eq, Value.ofClass.injEq]
  rw [same]
  rfl

namespace IsKeyed

theorem nil : IsKeyed call ([] : List (Value × Leaf κ)) :=
  ⟨fun _ among => absurd among List.not_mem_nil, .nil⟩

theorem cons {key : Value} {leaf : Leaf κ} (isComparable : IsComparable call key)
    (behind : ∀ identity : ClassId, key = identity → Value.ofClass identity ∉ leaves.map Prod.fst)
    (isKeyed : IsKeyed call leaves) : IsKeyed call ((key, leaf) :: leaves) where
  comparable other among := by
    rcases List.mem_cons.1 among with rfl | inside
    · exact isComparable
    · exact isKeyed.comparable other inside
  distinct := List.pairwise_cons.2
    ⟨fun _ inside identity same equal => behind identity same (equal ▸ inside), isKeyed.distinct⟩

variable {key : Value} {leaf : Leaf κ}

theorem tail (isKeyed : IsKeyed call ((key, leaf) :: leaves)) : IsKeyed call leaves where
  comparable other among := isKeyed.comparable other (List.mem_cons_of_mem _ among)
  distinct := (List.pairwise_cons.1 isKeyed.distinct).2

theorem head (isKeyed : IsKeyed call ((key, leaf) :: leaves)) : IsComparable call key :=
  isKeyed.comparable key List.mem_cons_self

theorem behind (isKeyed : IsKeyed call ((key, leaf) :: leaves)) (identity : ClassId)
    (same : key = identity) : Value.ofClass identity ∉ leaves.map Prod.fst :=
  fun inside => (List.pairwise_cons.1 isKeyed.distinct).1 _ inside identity same rfl

end IsKeyed

theorem ownLeaf?_cons (key : Value) (identity : ClassId) (leaf : Leaf κ)
    (rest : List (Value × Leaf κ)) :
    ownLeaf? ((key, leaf) :: rest) identity =
      if key = identity then some leaf else ownLeaf? rest identity := by
  unfold ownLeaf?
  rw [List.lookup_cons]
  by_cases same : key = identity
  · simp [same]
  · have other : (Value.ofClass identity == key) = false := beq_false_of_ne (Ne.symm same)
    simp [same, other]

/-- A class that is no key has no leaf of its own. -/
theorem ownLeaf?_eq_none {identity : ClassId}
    (absent : Value.ofClass identity ∉ leaves.map Prod.fst) : ownLeaf? leaves identity = none := by
  unfold ownLeaf?
  refine List.lookup_eq_none_iff.2 fun entry among => bne_iff_ne.2 fun equal => absent ?_
  exact equal ▸ List.mem_map_of_mem among

/-! ### Comparing keys -/

/-- Comparing a kept key with another one gives an answer, which is right about the classes, and does
nothing else. -/
def Tells (call : Caller κ) (world : World κ) (kept key : Value) : Prop :=
  ∃ same, outcome (isSameKey call kept key) world = (.ok same, world) ∧
    ∀ identity : ClassId, (same = true → (kept = identity ↔ key = identity)) ∧
      (same = false → kept = identity → key ≠ identity)

/-- What is a key: every class, and every other value for which nothing is done but telling it apart
from the classes and comparing it with the keys that are there. -/
inductive IsKey (call : Caller κ) (world : World κ) : Value → Prop
  | ofClass (identity : ClassId) : IsKey call world identity
  | other {key : Value} (noClass : ∀ identity : ClassId, key ≠ identity)
    (isComparable : IsComparable call key)
    (hashes : outcome (checkKey call key) world = (.ok (), world))
    (tells : ∀ kept ∈ world.leaves.map Prod.fst, Tells call world kept key) : IsKey call world key

namespace IsKey

variable {key : Value}

theorem isComparable (isKey : IsKey call world key) : IsComparable call key := by
  cases isKey with
  | ofClass identity => exact isComparable_ofClass identity
  | other _ isComparable _ _ => exact isComparable

theorem hashes (isKey : IsKey call world key) : outcome (checkKey call key) world = (.ok (), world) := by
  cases isKey with
  | ofClass identity => rfl
  | other _ _ hashes _ => exact hashes

theorem tells (closed : world.IsClosed) (isKey : IsKey call world key)
    (isKeyed : IsKeyed call world.leaves) :
    ∀ kept ∈ world.leaves.map Prod.fst, Tells call world kept key := by
  cases isKey with
  | ofClass identity =>
    refine fun kept among => ⟨_, isKeyed.comparable kept among identity world closed, fun other =>
      ⟨fun same => by rw [beq_iff_eq.1 same], fun apart here equal => ?_⟩⟩
    exact beq_eq_false_iff_ne.1 apart (here.trans equal.symm)
  | other _ _ _ tells => exact tells

end IsKey

/-! ### Registering and taking away -/

theorem find?_ofClass (closed : world.IsClosed) (isKeyed : IsKeyed call leaves) (identity : ClassId) :
    outcome (find? call identity leaves) world = (.ok (ownLeaf? leaves identity), world) := by
  induction leaves with
  | nil => rfl
  | cons entry rest inductionHypothesis =>
    obtain ⟨key, leaf⟩ := entry
    unfold find?
    rw [Run.outcome_bind_of_ok _ (isKeyed.head identity world closed), ownLeaf?_cons]
    by_cases same : key = identity
    · rw [if_pos (beq_iff_eq.2 same), if_pos same]
      rfl
    · rw [if_neg (mt beq_iff_eq.1 same), if_neg same]
      exact inductionHypothesis isKeyed.tail

section Changes

variable {key : Value} (isKeyed : IsKeyed call leaves)
  (tells : ∀ kept ∈ leaves.map Prod.fst, Tells call world kept key)

include isKeyed tells

/-- Registering a leaf under a key gives the class that is the key, if one is, this leaf and leaves all
others theirs. No other key is added. -/
theorem exists_put (isComparable : IsComparable call key) (leaf : Leaf κ) :
    ∃ changed, outcome (put call key leaf leaves) world = (.ok changed, world) ∧
      IsKeyed call changed ∧
      (∀ other : ClassId, ownLeaf? changed other =
        if key = other then some leaf else ownLeaf? leaves other) ∧
      ∀ other ∈ changed.map Prod.fst, other = key ∨ other ∈ leaves.map Prod.fst := by
  induction leaves with
  | nil =>
    exact ⟨[(key, leaf)], rfl, .cons isComparable (fun _ _ => List.not_mem_nil) .nil,
      fun other => ownLeaf?_cons .., by simp⟩
  | cons entry rest inductionHypothesis =>
    obtain ⟨first, kept⟩ := entry
    obtain ⟨same, answers, right⟩ := tells first List.mem_cons_self
    unfold put
    rw [Run.outcome_bind_of_ok _ answers]
    cases same with
    | true =>
      refine ⟨(first, leaf) :: rest, rfl, .cons isKeyed.head isKeyed.behind isKeyed.tail,
        fun other => ?_, fun other => .inr⟩
      rw [ownLeaf?_cons, ownLeaf?_cons]
      by_cases here : first = other
      · rw [if_pos here, if_pos (((right other).1 rfl).1 here)]
      · rw [if_neg here, if_neg here, if_neg (mt ((right other).1 rfl).2 here)]
    | false =>
      obtain ⟨changed, puts, keyed, own, keys⟩ := inductionHypothesis isKeyed.tail
        fun kept among => tells kept (List.mem_cons_of_mem _ among)
      rw [if_neg Bool.false_ne_true, Run.outcome_bind_of_ok _ puts]
      have apart (other : ClassId) : first = other → key ≠ other := (right other).2 rfl
      refine ⟨(first, kept) :: changed, rfl, .cons isKeyed.head (fun other equal among => ?_) keyed,
        fun other => ?_, fun other among => ?_⟩
      · rcases keys _ among with here | inside
        · exact apart other equal here.symm
        · exact isKeyed.behind other equal inside
      · rw [ownLeaf?_cons, own other, ownLeaf?_cons]
        by_cases here : first = other
        · rw [if_pos here, if_pos here, if_neg (apart other here)]
        · rw [if_neg here, if_neg here]
      · rcases List.mem_cons.1 among with rfl | inside
        · exact .inr List.mem_cons_self
        · exact (keys other inside).imp id (List.mem_cons_of_mem _)

/-- Taking the leaf of a key away leaves all other classes theirs. No key is added. -/
theorem exists_drop :
    ∃ changed, outcome (drop call key leaves) world = (.ok changed, world) ∧
      IsKeyed call changed ∧
      (∀ other : ClassId, ownLeaf? changed other =
        if key = other then none else ownLeaf? leaves other) ∧
      ∀ other ∈ changed.map Prod.fst, other ∈ leaves.map Prod.fst := by
  induction leaves with
  | nil => exact ⟨[], rfl, .nil, fun other => by simp [ownLeaf?], by simp⟩
  | cons entry rest inductionHypothesis =>
    obtain ⟨first, kept⟩ := entry
    obtain ⟨same, answers, right⟩ := tells first List.mem_cons_self
    unfold drop
    rw [Run.outcome_bind_of_ok _ answers]
    cases same with
    | true =>
      refine ⟨rest, rfl, isKeyed.tail, fun other => ?_, fun other => List.mem_cons_of_mem _⟩
      rw [ownLeaf?_cons]
      by_cases here : first = other
      · rw [if_pos (((right other).1 rfl).1 here), ownLeaf?_eq_none (isKeyed.behind other here)]
      · rw [if_neg here, if_neg (mt ((right other).1 rfl).2 here)]
    | false =>
      obtain ⟨changed, drops, keyed, own, keys⟩ := inductionHypothesis isKeyed.tail
        fun kept among => tells kept (List.mem_cons_of_mem _ among)
      rw [if_neg Bool.false_ne_true, Run.outcome_bind_of_ok _ drops]
      refine ⟨(first, kept) :: changed, rfl,
        .cons isKeyed.head (fun other equal among => isKeyed.behind other equal (keys _ among)) keyed,
        fun other => ?_, fun other among => ?_⟩
      · rw [ownLeaf?_cons, ownLeaf?_cons, own other]
        by_cases here : first = other
        · rw [if_pos here, if_pos here, if_neg ((right other).2 rfl here)]
        · rw [if_neg here, if_neg here]
      · rcases List.mem_cons.1 among with rfl | inside
        · exact List.mem_cons_self
        · exact List.mem_cons_of_mem _ (keys other inside)

end Changes

section Registry

variable {key : Value} (isKeyed : IsKeyed call world.leaves)
  (hashes : outcome (checkKey call key) world = (.ok (), world))
  (tells : ∀ kept ∈ world.leaves.map Prod.fst, Tells call world kept key)

include isKeyed hashes tells

/-- What registering a contract does under a key that can be told from those that are there. -/
theorem exists_register_of_tells (isComparable : IsComparable call key) (contract : κ)
    (representation : Value) :
    ∃ changed, outcome (register call key contract representation) world =
        (.ok (), { world with leaves := changed }) ∧ IsKeyed call changed ∧
      (∀ other : ClassId, ownLeaf? changed other =
        if key = other then some (leafOf key contract representation)
        else ownLeaf? world.leaves other) ∧
      ∀ other ∈ changed.map Prod.fst, other = key ∨ other ∈ world.leaves.map Prod.fst := by
  obtain ⟨changed, puts, changes⟩ :=
    exists_put isKeyed tells isComparable (leafOf key contract representation)
  refine ⟨changed, ?_, changes⟩
  unfold register
  rw [Run.outcome_bind_of_ok _ hashes, Run.outcome_get_bind, ← leafOf, Run.outcome_bind_of_ok _ puts]
  rfl

/-- What taking a contract away does under such a key. -/
theorem exists_unregister_of_tells :
    ∃ changed, outcome (unregister call key) world = (.ok (), { world with leaves := changed }) ∧
      IsKeyed call changed ∧
      (∀ other : ClassId, ownLeaf? changed other =
        if key = other then none else ownLeaf? world.leaves other) ∧
      ∀ other ∈ changed.map Prod.fst, other ∈ world.leaves.map Prod.fst := by
  cases nothing : world.leaves with
  | nil =>
    refine ⟨[], ?_, .nil, fun other => by simp [ownLeaf?], by simp⟩
    unfold unregister
    rw [Run.outcome_get_bind, if_pos (by simp [nothing]), ← nothing]
    rfl
  | cons entry rest =>
    rw [← nothing]
    obtain ⟨changed, drops, changes⟩ := exists_drop isKeyed tells
    refine ⟨changed, ?_, changes⟩
    unfold unregister
    rw [Run.outcome_get_bind, if_neg (by simp [nothing]), Run.outcome_bind_of_ok _ hashes,
      Run.outcome_bind_of_ok _ drops]
    rfl

end Registry

section Keys

variable (closed : world.IsClosed) (isKeyed : IsKeyed call world.leaves)

include closed isKeyed

/-- What registering a contract does. -/
theorem exists_register {key : Value} (isKey : IsKey call world key) (contract : κ)
    (representation : Value) :
    ∃ changed, outcome (register call key contract representation) world =
        (.ok (), { world with leaves := changed }) ∧ IsKeyed call changed ∧
      ∀ other : ClassId, ownLeaf? changed other =
        if key = other then some (leafOf key contract representation)
        else ownLeaf? world.leaves other := by
  obtain ⟨changed, registers, keyed, own, -⟩ := exists_register_of_tells isKeyed isKey.hashes
    (isKey.tells closed isKeyed) isKey.isComparable contract representation
  exact ⟨changed, registers, keyed, own⟩

/-- What taking a contract away does. -/
theorem exists_unregister {key : Value} (isKey : IsKey call world key) :
    ∃ changed, outcome (unregister call key) world = (.ok (), { world with leaves := changed }) ∧
      IsKeyed call changed ∧
      ∀ other : ClassId, ownLeaf? changed other =
        if key = other then none else ownLeaf? world.leaves other := by
  obtain ⟨changed, unregisters, keyed, own, -⟩ :=
    exists_unregister_of_tells isKeyed isKey.hashes (isKey.tells closed isKeyed)
  exact ⟨changed, unregisters, keyed, own⟩

end Keys

/-! ### Looking up -/

/-- The keys of a class are its ancestors. -/
theorem keys_ofClass (world : World κ) (identity : ClassId) :
    keys world identity = (world.ancestors identity).map .ofClass := by
  have origin : (TypeForm.origin? identity).getD identity = identity := by
    unfold TypeForm.origin?
    split <;> simp_all
  unfold keys
  rw [origin]

/-- The leaf of the nearest of some classes that has one. -/
def nearestLeaf? (leaves : List (Value × Leaf κ)) (line : List ClassId) : Option (Leaf κ) :=
  line.findSome? (ownLeaf? leaves)

theorem nearestLeaf?_congr {first second : List (Value × Leaf κ)} {line : List ClassId}
    (same : ∀ ancestor ∈ line, ownLeaf? first ancestor = ownLeaf? second ancestor) :
    nearestLeaf? first line = nearestLeaf? second line :=
  findSome?_congr same

section LookUp

variable (closed : world.IsClosed) (isKeyed : IsKeyed call world.leaves)

include closed isKeyed

theorem firstLeaf?_ofClasses (line : List ClassId) :
    outcome (firstLeaf? call (line.map .ofClass)) world =
      (.ok (nearestLeaf? world.leaves line), world) := by
  induction line with
  | nil => rfl
  | cons first rest inductionHypothesis =>
    have checks : checkKey call first = pure () := rfl
    rw [List.map_cons]
    unfold firstLeaf?
    rw [checks, pure_bind, Run.outcome_get_bind,
      Run.outcome_bind_of_ok _ (find?_ofClass closed isKeyed first)]
    unfold nearestLeaf? at inductionHypothesis ⊢
    rw [List.findSome?_cons]
    cases ownLeaf? world.leaves first with
    | some leaf => rfl
    | none => exact inductionHypothesis

section Line

variable {identity : ClassId} {form : Value}
  (line : keys world form = (world.ancestors identity).map .ofClass)

include line

/-- What is looked up under the ancestors of a class has the leaf contract of the nearest one that has
one. -/
theorem lookup_of_nearestLeaf?_of_keys {leaf : Leaf κ}
    (nearest : nearestLeaf? world.leaves (world.ancestors identity) = some leaf) :
    outcome (lookup call form) world = (.ok leaf, world) := by
  have found : outcome (firstLeaf? call (keys world form)) world = (.ok (some leaf), world) := by
    rw [line, firstLeaf?_ofClasses closed isKeyed, nearest]
  unfold lookup
  rw [Run.outcome_get_bind, Run.outcome_bind_of_ok _ found]
  rfl

/-- Where no ancestor has a leaf contract there is none, provided that the description can be given. -/
theorem lookup_of_no_leaf_of_keys {text : Text}
    (none : nearestLeaf? world.leaves (world.ancestors identity) = none)
    (described : outcome (Description.ofType call (Access.get? world form "__qualname__") form)
      world = (.ok text, world)) :
    outcome (lookup call form) world = (.error (.noContract text), world) := by
  have found : outcome (firstLeaf? call (keys world form)) world = (.ok .none, world) := by
    rw [line, firstLeaf?_ofClasses closed isKeyed, none]
  unfold lookup
  rw [Run.outcome_get_bind, Run.outcome_bind_of_ok _ found]
  exact (Run.outcome_bind_of_ok _ described).trans rfl

end Line

/-- A class has the leaf contract of its nearest ancestor that has one. -/
theorem lookup_of_nearestLeaf? {identity : ClassId} {leaf : Leaf κ}
    (nearest : nearestLeaf? world.leaves (world.ancestors identity) = some leaf) :
    outcome (lookup call identity) world = (.ok leaf, world) :=
  lookup_of_nearestLeaf?_of_keys closed isKeyed (keys_ofClass world identity) nearest

/-- A class without an ancestor that has a leaf contract has none, provided that its description can be
given. -/
theorem lookup_of_no_leaf {identity : ClassId} {text : Text}
    (none : nearestLeaf? world.leaves (world.ancestors identity) = none)
    (described : outcome (Description.ofType call (Access.get? world identity "__qualname__") identity)
      world = (.ok text, world)) :
    outcome (lookup call identity) world = (.error (.noContract text), world) :=
  lookup_of_no_leaf_of_keys closed isKeyed (keys_ofClass world identity) none described

end LookUp

end DifferenceTypes.Contract
