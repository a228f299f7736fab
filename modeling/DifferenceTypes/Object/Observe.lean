import DifferenceTypes.Object.Description

/-!
# Taking snapshots

How a value is seen. Plain values and lists are seen as they are, classes and type expressions by
their names, and every other object by its class, what it is made of, and its attributes. An object
that is made of items or of a plain value is seen without attributes if it has none.
-/

namespace DifferenceTypes.Snapshot

variable {κ : Type}

/-- The snapshot of an object that is seen by its class alone. -/
def ofClassName (name : String) : Snapshot :=
  .object (Text.ofString name) Option.none Option.none (some [])

/-- The snapshot of a plain value. -/
def ofScalar : Value → Option Snapshot
  | .none => some .none
  | .truth value => some (.truth value)
  | .integer value => some (.integer value)
  | .real value => some (.real (Text.ofCharacters value.shortest))
  | .text value => some (.text value)
  | _ => Option.none

mutual

/-- The snapshot of a value, nested no deeper than the count allows. -/
def take (call : Caller κ) : Nat → Value → Run κ Snapshot
  | 0, _ => throw .tooDeep
  | depth + 1, value => do
    let world ← get
    match ofScalar value with
    | some seen => return seen
    | Option.none =>
      match value with
      | .ofClass identity => return .ofClass (Text.ofString (world.qualifiedName identity))
      | .specialForm _ | .collectionForm _ | .subscribed _ _ | .parameterized _ _ _ | .union _
      | .alternatives _ | .annotated _ _ | .literal _ | .typeVariable _ _ | .forwardReference _
      | .initializer _ => return .form (← Description.describe call value)
      | .tuple items =>
        let taken ← takeAll call depth items
        return .object (Text.ofString "tuple") (some taken) Option.none Option.none
      | .object ref => takeObject call depth (← Run.object ref)
      | other => return ofClassName (world.className (world.classOf other))

/-- The snapshot of an object. -/
def takeObject (call : Caller κ) : Nat → Object → Run κ Snapshot
  | 0, _ => throw .tooDeep
  | depth + 1, seen => do
    let name := Text.ofString ((← get).qualifiedName seen.classId)
    match seen.classId, seen.content with
    | .builtin .list, .items items => return .list (← takeAll call depth items)
    | .builtin .dictionary, .entries entries =>
      return .dictionary (← takeEntries call depth entries)
    | _, content =>
      let attributes ← takeAttributes call depth seen.attributes
      let shown := if attributes.isEmpty then Option.none else some attributes
      match content with
      | .items items => return .object name (some (← takeAll call depth items)) Option.none shown
      | .scalar (.integer plain) => return .object name Option.none (some (.integer plain)) shown
      | .scalar (.text plain) => return .object name Option.none (some (.text plain)) shown
      | _ => return .object name Option.none Option.none (some attributes)

/-- The snapshots of values, in their order. -/
def takeAll (call : Caller κ) : Nat → List Value → Run κ (List Snapshot)
  | 0, _ => throw .tooDeep
  | _ + 1, [] => return []
  | depth + 1, first :: rest => do
    let seen ← take call depth first
    return seen :: (← takeAll call (depth + 1) rest)

/-- The snapshots of attributes, in their order. -/
def takeAttributes (call : Caller κ) : Nat → Attributes → Run κ (List (String × Snapshot))
  | 0, _ => throw .tooDeep
  | _ + 1, [] => return []
  | depth + 1, (name, first) :: rest => do
    let seen ← take call depth first
    return (name, seen) :: (← takeAttributes call (depth + 1) rest)

/-- The snapshots of the entries of a dictionary, in their order. -/
def takeEntries (call : Caller κ) : Nat → List (Value × Value) → Run κ (List (Snapshot × Snapshot))
  | 0, _ => throw .tooDeep
  | _ + 1, [] => return []
  | depth + 1, (key, first) :: rest => do
    let name ← take call depth key
    let seen ← take call depth first
    return (name, seen) :: (← takeEntries call (depth + 1) rest)

end

end DifferenceTypes.Snapshot
