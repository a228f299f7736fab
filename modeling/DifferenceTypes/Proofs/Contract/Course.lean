import DifferenceTypes.Contract.Installation
import DifferenceTypes.Contract.Positional
import DifferenceTypes.Proofs.Object.Operation

/-!
# The course of contracts

What registering, installing and using contracts does to a world is made of steps, provided that the
leaf contracts do nothing else.
-/

namespace DifferenceTypes

open Run

variable {κ : Type} {related : World κ → World κ → Prop} [World.Course related]
  {call : Caller κ} (calls : Caller.Follows related call)

namespace Contract

/-- Whatever leaf contracts do, the world that they leave behind is related to the one before. -/
structure Behaviour.Follows (related : World κ → World κ → Prop) (behaviour : Behaviour κ) : Prop
    where
  diff : ∀ {call : Caller κ}, Caller.Follows related call → ∀ contract first second,
    Run.Follows related (behaviour.diff call contract first second)
  apply : ∀ {call : Caller κ}, Caller.Follows related call → ∀ contract value delta,
    Run.Follows related (behaviour.apply call contract value delta)
  identity : ∀ {call : Caller κ}, Caller.Follows related call → ∀ contract,
    Run.Follows related (behaviour.identity call contract)

@[grind ←]
theorem follows_ownMember (implementation : Value) (name : String) :
    Follows related (ownMember implementation name : Run κ Value) := by
  unfold ownMember
  grind

include calls

@[grind ←]
theorem follows_checkKey (type : Value) :
    Follows related (checkKey call type) := by
  unfold checkKey
  grind

@[grind ←]
theorem follows_isSameKey (first second : Value) :
    Follows related (isSameKey call first second) := by
  unfold isSameKey
  grind

@[grind ←]
theorem follows_put (type : Value) (leaf : Leaf κ) (leaves : List (Value × Leaf κ)) :
    Follows related (put call type leaf leaves) := by
  fun_induction put call type leaf leaves <;> grind

@[grind ←]
theorem follows_drop (type : Value) (leaves : List (Value × Leaf κ)) :
    Follows related (drop call type leaves) := by
  fun_induction drop call type leaves <;> grind

@[grind ←]
theorem follows_find? (type : Value) (leaves : List (Value × Leaf κ)) :
    Follows related (find? call type leaves) := by
  fun_induction find? call type leaves <;> grind

@[grind ←]
theorem follows_register (type : Value) (contract : κ) (representation : Value) :
    Follows related (register call type contract representation) := by
  have keeps (leaves : List (Value × Leaf κ)) : Follows related
      (modify fun world : World κ => { world with leaves := leaves }) :=
    follows_modify fun _ => .elsewhere rfl rfl
  unfold register
  refine (follows_checkKey calls type).bind fun _ => follows_get.bind fun world => ?_
  exact (follows_put calls type _ _).bind keeps

@[grind ←]
theorem follows_unregister (type : Value) : Follows related (unregister call type) := by
  have keeps (leaves : List (Value × Leaf κ)) : Follows related
      (modify fun world : World κ => { world with leaves := leaves }) :=
    follows_modify fun _ => .elsewhere rfl rfl
  unfold unregister
  refine follows_get.bind fun world => ?_
  split
  · exact follows_pure _
  · refine (follows_checkKey calls type).bind fun _ => ?_
    exact (follows_drop calls type _).bind keeps

@[grind ←]
theorem follows_firstLeaf? (types : List Value) :
    Follows related (firstLeaf? call types) := by
  fun_induction firstLeaf? call types <;> grind

@[grind ←]
theorem follows_lookup (type : Value) :
    Follows related (lookup call type) := by
  unfold lookup
  grind

@[grind ←]
theorem follows_representation (type : Value) :
    Follows related (representation call type) := by
  unfold representation
  grind

@[grind ←]
theorem follows_takeOver (target implementation : Value) (names : List String) :
    Follows related (takeOver call target implementation names) := by
  fun_induction takeOver call target implementation names <;> grind

@[grind ←]
theorem follows_install (target implementation : Value) :
    Follows related (install call target implementation) := by
  unfold install
  grind

section Operations

variable {behaviour : Behaviour κ} (behaves : behaviour.Follows related)

include behaves

@[grind ←]
theorem follows_diff (first second : Value) :
    Follows related (diff behaviour call first second) := by
  unfold diff
  grind [behaves.diff calls]

@[grind ←]
theorem follows_apply (value delta : Value) :
    Follows related (apply behaviour call value delta) := by
  unfold apply
  grind [behaves.apply calls]

@[grind ←]
theorem follows_identity (type : Value) : Follows related (identity behaviour call type) := by
  unfold identity
  grind [behaves.identity calls]

end Operations

end Contract

namespace Positional

include calls

@[grind ←]
theorem follows_checkCount (self : Value) (items : List Value) :
    Follows related (checkCount call self items) := by
  unfold checkCount
  grind

@[grind ←]
theorem follows_fill (arguments : Arguments) :
    Follows related (fill call arguments) := by
  unfold fill
  grind

@[grind ←]
theorem follows_equal (self other : Value) :
    Follows related (equal call self other) := by
  unfold equal
  grind

@[grind ←]
theorem follows_different (self other : Value) :
    Follows related (different call self other) := by
  unfold different
  grind

@[grind ←]
theorem follows_describe (self : Value) :
    Follows related (describe call self) := by
  unfold describe
  grind

end Positional

end DifferenceTypes
