import DifferenceTypes.Contract.Dispatch

/-!
# Installing a contract

A contract is installed on a class by taking its four members over from the class that implements it
and noting that class. The members are taken one after the other, and only those that the
implementing class has of its own count. If one is missing, the ones before it stay taken over.
-/

namespace DifferenceTypes.Contract

variable {κ : Type}

/-- The members of a contract, in the order in which they are taken over. -/
def members : List String :=
  ["Repr", "diff", "apply", "identity"]

/-- The member that a class has of its own. -/
def ownMember (implementation : Value) (name : String) : Run κ Value := do
  let world ← get
  let found ← match implementation with
    | .ofClass identity => pure (world.ownAttribute? identity name)
    | .object ref => pure ((← Run.object ref).attributes.get? name)
    | _ => throw .missingAttribute
  match found with
  | some value => return value
  | none => throw .missingKey

/-- Takes members over, one after the other. -/
def takeOver (call : Caller κ) (target implementation : Value) : List String → Run κ Unit
  | [] => return ()
  | name :: rest => do
    let member ← ownMember implementation name
    Access.set call target name member
    takeOver call target implementation rest

/-- Installs the contract that a class implements. -/
def install (call : Caller κ) (target implementation : Value) : Run κ Value := do
  takeOver call target implementation members
  Access.set call target implementationName implementation
  return implementation

end DifferenceTypes.Contract
