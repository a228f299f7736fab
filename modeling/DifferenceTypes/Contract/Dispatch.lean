import DifferenceTypes.Contract.Registry

/-!
# Dispatch

Where the operations of the contract go. A class on which a contract was installed is served by the
class that implements the contract, found along its ancestors; every other type is served by its
leaf contract. Metadata on a type is left aside.

The implementing class is reached through the class of a value and never through the value itself,
whose fields may have the names of the operations.
-/

namespace DifferenceTypes.Contract

variable {κ : Type}

/-- What leaf contracts do: they compare two values, bring a difference into a value, and give a
value to start from. -/
structure Behaviour (κ : Type) where
  diff : Caller κ → κ → Value → Value → Run κ Value
  apply : Caller κ → κ → Value → Value → Run κ Value
  identity : Caller κ → κ → Run κ Value

/-- The attribute of a class that holds the class that implements its contract. -/
def implementationName : String := "__diff_impl__"

/-- The class that implements the contract of a type, if one was installed on it. -/
def implementation? (world : World κ) (type : Value) : Option Value :=
  match type with
  | .ofClass identity =>
    match world.attributeOfClass? identity implementationName with
    | some .none => none
    | found => found
  | _ => none

/-- Whether a contract was installed on a type. -/
def isGenerated (world : World κ) (type : Value) : Bool :=
  (implementation? world type).isSome

/-- The type that differences of a type's values have. -/
def representation (call : Caller κ) (type : Value) : Run κ Value := do
  let type := TypeForm.withoutMetadata type
  if isGenerated (← get) type then Access.get type "Repr"
  else return (← lookup call type).representation

/-- The difference that leads from the first value to the second. -/
def diff (behaviour : Behaviour κ) (call : Caller κ) (first second : Value) : Run κ Value := do
  let world ← get
  let type : Value := world.classOf first
  match implementation? world type with
  | some implementation => call (← Access.get implementation "diff") ⟨[first, second], []⟩
  | none => behaviour.diff call (← lookup call type).contract first second

/-- The value with a difference brought into it. -/
def apply (behaviour : Behaviour κ) (call : Caller κ) (value delta : Value) : Run κ Value := do
  let world ← get
  let type : Value := world.classOf value
  match implementation? world type with
  | some implementation => call (← Access.get implementation "apply") ⟨[value, delta], []⟩
  | none => behaviour.apply call (← lookup call type).contract value delta

/-- A value of a type to start from. -/
def identity (behaviour : Behaviour κ) (call : Caller κ) (type : Value) : Run κ Value := do
  let type := TypeForm.withoutMetadata type
  if isGenerated (← get) type then call (← Access.get type "identity") ⟨[], []⟩
  else behaviour.identity call (← lookup call type).contract

end DifferenceTypes.Contract
