import DifferenceTypes.Proofs.Evaluation.Calls
import DifferenceTypes.Session.Contract

/-!
# The course of a session

The leaf contracts of a session work with values as any other code does, and what they write down is
neither an object nor a class. So whatever is called in a session leads along a course of steps and
of changes that make classes record classes.
-/

namespace DifferenceTypes

open Run (Follows)

namespace Snapshot

variable {κ : Type} {related : World κ → World κ → Prop} [World.Course related] {call : Caller κ}
  (calls : Caller.Follows related call)

include calls

set_option linter.unusedSectionVars false in
-- By induction on how deeply a value may be nested.
mutual

theorem follows_take :
    (depth : Nat) → ∀ value, Follows related (take call depth value)
  | 0, _ => by
    unfold take
    exact Run.follows_throw _
  | depth + 1, _ => by
    unfold take
    refine Run.follows_get.bind fun world => ?_
    split
    · exact Run.follows_pure _
    · split <;> grind [follows_takeAll depth, follows_takeObject depth]

theorem follows_takeObject :
    (depth : Nat) → ∀ seen, Follows related (takeObject call depth seen)
  | 0, _ => by
    unfold takeObject
    exact Run.follows_throw _
  | depth + 1, _ => by
    unfold takeObject
    refine Run.follows_get.bind fun world => ?_
    dsimp only
    split <;> grind [follows_takeAll depth, follows_takeEntries depth, follows_takeAttributes depth]

theorem follows_takeAll :
    (depth : Nat) → ∀ values, Follows related (takeAll call depth values)
  | 0, _ => by
    unfold takeAll
    exact Run.follows_throw _
  | _ + 1, [] => by
    unfold takeAll
    exact Run.follows_pure _
  | depth + 1, _ :: rest => by
    unfold takeAll
    grind [follows_take depth, follows_takeAll (depth + 1) rest]

theorem follows_takeAttributes :
    (depth : Nat) → ∀ attributes, Follows related (takeAttributes call depth attributes)
  | 0, _ => by
    unfold takeAttributes
    exact Run.follows_throw _
  | _ + 1, [] => by
    unfold takeAttributes
    exact Run.follows_pure _
  | depth + 1, _ :: rest => by
    unfold takeAttributes
    grind [follows_take depth, follows_takeAttributes (depth + 1) rest]

theorem follows_takeEntries :
    (depth : Nat) → ∀ entries, Follows related (takeEntries call depth entries)
  | 0, _ => by
    unfold takeEntries
    exact Run.follows_throw _
  | _ + 1, [] => by
    unfold takeEntries
    exact Run.follows_pure _
  | depth + 1, _ :: rest => by
    unfold takeEntries
    grind [follows_take depth, follows_takeEntries (depth + 1) rest]

end

end Snapshot

namespace SessionContract

variable {related : World SessionContract → World SessionContract → Prop}

section Leaves

variable [World.Course related] {call : Caller SessionContract}
  (calls : Caller.Follows related call)

include calls

@[grind ←]
theorem follows_observe (contract : SessionContract) (operation : String)
    (operands : List Value) : Follows related (observe call contract operation operands) := by
  unfold observe
  grind [Snapshot.follows_takeAll]

@[grind ←]
theorem follows_diff (contract : SessionContract) (first second : Value) :
    Follows related (diff call contract first second) := by
  unfold diff
  grind

@[grind ←]
theorem follows_apply (contract : SessionContract) (value delta : Value) :
    Follows related (apply call contract value delta) := by
  unfold apply
  grind

@[grind ←]
theorem follows_identity (contract : SessionContract) :
    Follows related (identity call contract) := by
  unfold identity
  grind

omit calls in
theorem follows_behaviour : behaviour.Follows related where
  diff calls := follows_diff calls
  apply calls := follows_apply calls
  identity calls := follows_identity calls

end Leaves

/-- Every call in a session leads along a course. -/
theorem follows_call [World.RecordCourse related] : Caller.Follows related call :=
  Evaluation.follows_call follows_behaviour

end SessionContract

end DifferenceTypes
