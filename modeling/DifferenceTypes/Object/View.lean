import DifferenceTypes.Object.Attribute

/-!
# Views of values

What a value is made of, whether it is a plain value or an object of a class derived from that of
plain values. Operators and conversions go by the view; which class the operand has does not matter
to them.
-/

namespace DifferenceTypes

/-- What a value is made of. -/
inductive View where
  /-- A plain value, also the one inside an object of a derived class. -/
  | scalar (value : Value)
  | list (items : List Value)
  | tuple (items : List Value)
  | dictionary (entries : List (Value × Value))
  | other
  deriving Inhabited

namespace World

variable {κ : Type}

/-- The view of what an object is made of. -/
def viewContent : Content → View
  | .items items => .list items
  | .entries entries => .dictionary entries
  | .scalar (.tuple items) => .tuple items
  | .scalar value => .scalar value
  | _ => .other

/-- The view of a value. -/
def view (world : World κ) : Value → View
  | .none => .scalar .none
  | .ellipsis => .scalar .ellipsis
  | .undecided => .scalar .undecided
  | .truth value => .scalar (.truth value)
  | .integer value => .scalar (.integer value)
  | .real value => .scalar (.real value)
  | .text value => .scalar (.text value)
  | .bytes value => .scalar (.bytes value)
  | .tuple items => .tuple items
  | .object ref =>
    match world.objects[ref]? with
    | some object => viewContent object.content
    | none => .other
  | _ => .other

/-- Whether a value counts as true in a condition. -/
def isTrue (world : World κ) (value : Value) : Bool :=
  match world.view value with
  | .scalar .none => false
  | .scalar (.truth value) => value
  | .scalar (.integer value) => value != 0
  | .scalar (.real value) => !value.equals (Binary64.zero false)
  | .scalar (.text value) => !value.isEmpty
  | .scalar (.bytes value) => !value.isEmpty
  | .list items | .tuple items => !items.isEmpty
  | .dictionary entries => !entries.isEmpty
  | _ => true

end World

namespace Run

variable {κ : Type}

/-- The view of a value. -/
def view (value : Value) : Run κ View :=
  return (← get).view value

/-- The elements of a value, one after the other. -/
def elements (value : Value) : Run κ (List Value) := do
  match ← view value with
  | .list items | .tuple items => return items
  | .dictionary entries => return entries.map (·.1)
  | .scalar (.text text) => return text.map fun point => .text [point]
  | .scalar (.bytes bytes) => return bytes.map fun byte => .integer byte.toNat
  | _ => throw .wrongType

end Run

end DifferenceTypes
