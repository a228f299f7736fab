import DifferenceTypes.Object.Operator

/-!
# Changing lists

The methods by which a list changes in place. They work on the items alone, so they serve the
objects of classes derived from that of lists as well, and leave the class of the object as it is.
-/

namespace DifferenceTypes.Sequence

variable {κ : Type}

/-- The items of a list. -/
def items (list : Value) : Run κ (List Value) := do
  match list with
  | .object ref =>
    match (← Run.object ref).content with
    | .items items => return items
    | _ => throw .wrongType
  | _ => throw .wrongType

/-- Gives a list other items. -/
def put (list : Value) (items : List Value) : Run κ Unit := do
  match list with
  | .object ref =>
    match (← Run.object ref).content with
    | .items _ => Run.putItems ref items
    | _ => throw .wrongType
  | _ => throw .wrongType

/-- The place in front of which an item is inserted: an index outside of the list means the nearest
end. -/
def insertionPlace (length : Nat) (index : Int) : Nat :=
  if 0 ≤ index then min index.toNat length else (index + length).toNat

/-- The integer that an index is. -/
def index (value : Value) : Run κ Int := do
  match ← Run.view value with
  | .scalar plain =>
    match plain.integer? with
    | some number => return number
    | none => throw .wrongType
  | _ => throw .wrongType

/-- Puts an item in front of the one at an index. -/
def insert (list place item : Value) : Run κ Unit := do
  let kept ← items list
  let front := insertionPlace kept.length (← index place)
  put list (kept.take front ++ item :: kept.drop front)

/-- Takes the item at an index out of a list. -/
def pop (list place : Value) : Run κ Value := do
  let kept ← items list
  match Operator.place? kept.length (← index place) with
  | none => throw .missingIndex
  | some found =>
    put list (kept.eraseIdx found)
    return kept.getD found .none

/-- The place of the first item that is equal to a value. -/
def placeOf (call : Caller κ) (value : Value) : Nat → List Value → Run κ Nat
  | _, [] => throw .badValue
  | passed, first :: rest => do
    if ← Comparison.isEqual call first value then return passed
    else placeOf call value (passed + 1) rest

/-- How many items are equal to a value. -/
def occurrences (call : Caller κ) (value : Value) : List Value → Run κ Nat
  | [] => return 0
  | first :: rest => do
    let here ← Comparison.isEqual call first value
    let behind ← occurrences call value rest
    return if here then behind + 1 else behind

/-- Takes all items out of a collection. -/
def clear (collection : Value) : Run κ Unit := do
  match collection with
  | .object ref =>
    match (← Run.object ref).content with
    | .items _ => Run.putItems ref []
    | .entries _ => Run.putEntries ref []
    | _ => throw .wrongType
  | _ => throw .wrongType

end DifferenceTypes.Sequence
