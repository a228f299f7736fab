import DifferenceTypes.Object.Access
import DifferenceTypes.Object.Description

/-!
# Leaf contracts

The contracts of types that carry none themselves. A contract is registered under a type, and a type
has the contract of the nearest of its ancestors that has one. A type expression with a subscript
has the contract of what it subscribes.

Types are told apart by equality, so anything that can be hashed can have a contract, also what is
no type.
-/

namespace DifferenceTypes.Contract

variable {κ : Type}

/-- Fails unless a value can be a key. -/
def checkKey (call : Caller κ) : Value → Run κ Unit
  | .ofClass _ => return ()
  | value => Comparison.checkHashable call value

/-- Whether two keys are one. Classes are told apart by identity, everything else by equality. -/
def isSameKey (call : Caller κ) : Value → Value → Run κ Bool
  | .ofClass first, .ofClass second => return first == second
  | first, second => Comparison.isEqual call first second

/-- The leaves with one registered under a type. -/
def put (call : Caller κ) (type : Value) (leaf : Leaf κ) :
    List (Value × Leaf κ) → Run κ (List (Value × Leaf κ))
  | [] => return [(type, leaf)]
  | (key, kept) :: rest => do
    if ← isSameKey call key type then return (key, leaf) :: rest
    else return (key, kept) :: (← put call type leaf rest)

/-- The leaves without the one registered under a type. -/
def drop (call : Caller κ) (type : Value) : List (Value × Leaf κ) → Run κ (List (Value × Leaf κ))
  | [] => return []
  | (key, kept) :: rest => do
    if ← isSameKey call key type then return rest else return (key, kept) :: (← drop call type rest)

/-- The leaf registered under a key. -/
def find? (call : Caller κ) (type : Value) : List (Value × Leaf κ) → Run κ (Option (Leaf κ))
  | [] => return none
  | (key, leaf) :: rest => do
    if ← isSameKey call key type then return some leaf else find? call type rest

/-- Registers the contract of a type. The differences are of that type itself if no other type is
given. -/
def register (call : Caller κ) (type : Value) (contract : κ) (representation : Value) :
    Run κ Unit := do
  checkKey call type
  let chosen := if representation.same .none then type else representation
  let leaves ← put call type ⟨chosen, contract⟩ (← get).leaves
  modify fun world => { world with leaves := leaves }

/-- Takes the contract of a type away, if it has one of its own. -/
def unregister (call : Caller κ) (type : Value) : Run κ Unit := do
  let world ← get
  if world.leaves.isEmpty then return ()
  checkKey call type
  let leaves ← drop call type world.leaves
  modify fun world => { world with leaves := leaves }

/-- The keys under which the contract of a type is looked up, in their order. -/
def keys (world : World κ) (type : Value) : List Value :=
  match (TypeForm.origin? type).getD type with
  | .ofClass identity => (world.ancestors identity).map .ofClass
  | other => [other]

/-- The leaf registered under the first of some keys that has one. -/
def firstLeaf? (call : Caller κ) : List Value → Run κ (Option (Leaf κ))
  | [] => return none
  | key :: rest => do
    checkKey call key
    match ← find? call key (← get).leaves with
    | some leaf => return some leaf
    | none => firstLeaf? call rest

/-- The leaf whose contract a type has. -/
def lookup (call : Caller κ) (type : Value) : Run κ (Leaf κ) := do
  let world ← get
  match ← firstLeaf? call (keys world type) with
  | some leaf => return leaf
  | none =>
    throw (.noContract (← Description.ofType call (Access.get? world type "__qualname__") type))

end DifferenceTypes.Contract
