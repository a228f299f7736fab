import DifferenceTypes.Object.TypeForm
import DifferenceTypes.Syntax.Tree

/-!
# Operators

The operators of arithmetic on plain values and collections, and access to the items of collections.
Truth values count as integers, and an integer meets a floating-point number as the nearest one.
What two operands give is a plain value, whatever classes they have: the sum of two objects of a
class derived from that of lists is a list.
-/

namespace DifferenceTypes.Operator

variable {κ : Type}

/-- The floating-point number that an integer counts as. -/
def toReal (value : Int) : Run κ Binary64 :=
  match Binary64.ofInt value with
  | .finite negative mantissa exponent => return .finite negative mantissa exponent
  | _ => throw .tooLarge

/-- Two numbers as integers if both are, or else as floating-point numbers. -/
inductive Pair where
  | integers (first second : Int)
  | reals (first second : Binary64)

/-- Two plain values as numbers, if they are. -/
def numbers? (first second : Value) : Option (Run κ Pair) :=
  match first, second with
  | .real left, .real right => some (return .reals left right)
  | .real left, other => other.integer?.map fun right => return .reals left (← toReal right)
  | other, .real right => other.integer?.map fun left => return .reals (← toReal left) right
  | left, right =>
    match left.integer?, right.integer? with
    | some left, some right => some (return .integers left right)
    | _, _ => none

/-- The sum of two values. -/
def add (first second : Value) : Run κ Value := do
  match ← Run.view first, ← Run.view second with
  | .list left, .list right => Run.createList (left ++ right)
  | .tuple left, .tuple right => return .tuple (left ++ right)
  | .scalar (.text left), .scalar (.text right) => return .text (left ++ right)
  | .scalar (.bytes left), .scalar (.bytes right) => return .bytes (left ++ right)
  | .scalar left, .scalar right =>
    match numbers? left right with
    | some pair =>
      match ← pair with
      | .integers left right => return .integer (left + right)
      | .reals left right => return .real (left.add right)
    | none => throw .wrongType
  | _, _ => throw .wrongType

/-- The difference of two values. -/
def subtract (first second : Value) : Run κ Value := do
  match ← Run.view first, ← Run.view second with
  | .scalar left, .scalar right =>
    match numbers? left right with
    | some pair =>
      match ← pair with
      | .integers left right => return .integer (left - right)
      | .reals left right => return .real (left.sub right)
    | none => throw .wrongType
  | _, _ => throw .wrongType

/-- A list so many times. -/
def repeated {α : Type} (items : List α) (count : Int) : List α :=
  (List.replicate count.toNat items).flatten

/-- A collection so many times. -/
def repeatValue (collection : View) (count : Int) : Run κ Value :=
  match collection with
  | .list items => Run.createList (repeated items count)
  | .tuple items => return .tuple (repeated items count)
  | .scalar (.text text) => return .text (repeated text count)
  | .scalar (.bytes bytes) => return .bytes (repeated bytes count)
  | _ => throw .wrongType

/-- The product of two values. -/
def multiply (first second : Value) : Run κ Value := do
  match ← Run.view first, ← Run.view second with
  | .scalar left, .scalar right =>
    match left.integer?, right.integer? with
    | some left, some right => return .integer (left * right)
    | some left, none => repeatValue (.scalar right) left
    | none, some right => repeatValue (.scalar left) right
    | none, none => throw .wrongType
  | .scalar left, collection =>
    match left.integer? with
    | some count => repeatValue collection count
    | none => throw .wrongType
  | collection, .scalar right =>
    match right.integer? with
    | some count => repeatValue collection count
    | none => throw .wrongType
  | _, _ => throw .wrongType

/-- A quotient or a remainder of two integers. -/
def divided (first second : Value) (result : Int → Int → Int) : Run κ Value := do
  match ← Run.view first, ← Run.view second with
  | .scalar left, .scalar right =>
    match left.integer?, right.integer? with
    | some left, some right =>
      if right == 0 then throw .divisionByZero else return .integer (result left right)
    | _, _ => throw .unsupported
  | _, _ => throw .unsupported

/-- The bits that are set in one of two integers. -/
def orBits : Int → Int → Int
  | .ofNat first, .ofNat second => .ofNat (first ||| second)
  | .ofNat first, .negSucc second => .negSucc (second - (second &&& first))
  | .negSucc first, .ofNat second => .negSucc (first - (first &&& second))
  | .negSucc first, .negSucc second => .negSucc (first &&& second)

/-- Two values with a bar between them: a union of types, or the bits of integers. -/
def bar (call : Caller κ) (first second : Value) : Run κ Value := do
  match ← Run.view first, ← Run.view second with
  | .scalar (.truth left), .scalar (.truth right) => return .truth (left || right)
  | .scalar left, .scalar right =>
    match left.integer?, right.integer? with
    | some left, some right => return .integer (orBits left right)
    | _, _ => TypeForm.bar call first second
  | _, _ => TypeForm.bar call first second

/-- The value of an operator between two values. -/
def apply (call : Caller κ) : BinaryOperator → Value → Value → Run κ Value
  | .add, first, second => add first second
  | .subtract, first, second => subtract first second
  | .multiply, first, second => multiply first second
  | .floorDivide, first, second => divided first second Int.fdiv
  | .remainder, first, second => divided first second Int.fmod
  | .bitOr, first, second => bar call first second
  | _, _, _ => throw .unsupported

/-- The value of an operator in front of a value. -/
def applyUnary (operator : UnaryOperator) (value : Value) : Run κ Value := do
  match operator, ← Run.view value with
  | .not, _ => return .truth (!(← get).isTrue value)
  | .minus, .scalar (.real number) => return .real number.negate
  | .plus, .scalar (.real number) => return .real number
  | operator, .scalar plain =>
    match plain.integer? with
    | some number =>
      match operator with
      | .minus => return .integer (-number)
      | .invert => return .integer (-number - 1)
      | _ => return .integer number
    | none => throw .wrongType
  | _, _ => throw .wrongType

/-! ### Items -/

/-- The index of an item counted from the front. Negative numbers count from the end. -/
def place? (length : Nat) (index : Int) : Option Nat :=
  if 0 ≤ index then (if index < length then some index.toNat else none)
  else if 0 ≤ index + length then some (index + length).toNat else none

/-- The item at an index. -/
def itemAt {α : Type} (items : List α) (index : Value) : Run κ α := do
  match ← Run.view index with
  | .scalar plain =>
    match plain.integer? with
    | some number =>
      match (place? items.length number).bind (items[·]?) with
      | some item => return item
      | none => throw .missingIndex
    | none => throw .wrongType
  | _ => throw .wrongType

/-- The item of a collection, by its index or key. -/
def getItem (call : Caller κ) (collection index : Value) : Run κ Value := do
  match ← Run.view collection with
  | .list items | .tuple items => itemAt items index
  | .scalar (.text text) => return .text [← itemAt text index]
  | .scalar (.bytes bytes) => return .integer (← itemAt bytes index).toNat
  | .dictionary entries =>
    Comparison.checkHashable call index
    match ← Comparison.find? call index entries with
    | some value => return value
    | none => throw .missingKey
  | _ => throw .wrongType

/-- The entries of a dictionary with a value under a key. -/
def putEntry (call : Caller κ) (key value : Value) :
    List (Value × Value) → Run κ (List (Value × Value))
  | [] => return [(key, value)]
  | (candidate, kept) :: rest => do
    if ← Comparison.isEqual call candidate key then return (candidate, value) :: rest
    else return (candidate, kept) :: (← putEntry call key value rest)

/-- Puts a value in the place of an item of a list, or under a key of a dictionary. -/
def setItem (call : Caller κ) (collection index value : Value) : Run κ Unit := do
  match collection with
  | .object ref =>
    let object ← Run.object ref
    match object.content with
    | .items items =>
      match ← Run.view index with
      | .scalar plain =>
        match plain.integer? with
        | some number =>
          match place? items.length number with
          | some place =>
            Run.putItems ref (items.set place value)
          | none => throw .missingIndex
        | none => throw .wrongType
      | _ => throw .wrongType
    | .entries entries =>
      Comparison.checkHashable call index
      Run.putEntries ref (← putEntry call index value entries)
    | _ => throw .wrongType
  | _ => throw .wrongType

/-- How many items a collection has. -/
def length (value : Value) : Run κ Nat := do
  match ← Run.view value with
  | .list items | .tuple items => return items.length
  | .dictionary entries => return entries.length
  | .scalar (.text text) => return text.length
  | .scalar (.bytes bytes) => return bytes.length
  | _ => throw .wrongType

/-- The collection without its first items. -/
def dropItems (value : Value) (count : Nat) : Run κ Value := do
  match ← Run.view value with
  | .list items => Run.createList (items.drop count)
  | .tuple items => return .tuple (items.drop count)
  | .scalar (.text text) => return .text (text.drop count)
  | .scalar (.bytes bytes) => return .bytes (bytes.drop count)
  | _ => throw .wrongType

/-- A value with a subscript. -/
def subscript (call : Caller κ) (value index : Value) : Run κ Value := do
  match TypeForm.subscribe? call value index with
  | some result => result
  | none =>
    let world ← get
    match world.classAttribute? (world.classOf value) "__getitem__" with
    | some (.primitive _) => getItem call value index
    | some found => call (world.boundToInstance value found) ⟨[index], []⟩
    | none => throw .wrongType

/-- Assigns to a value with a subscript. -/
def assignSubscript (call : Caller κ) (value index new : Value) : Run κ Unit := do
  let world ← get
  match world.classAttribute? (world.classOf value) "__setitem__" with
  | some (.primitive _) => setItem call value index new
  | some found => discard (call (world.boundToInstance value found) ⟨[index, new], []⟩)
  | none => throw .wrongType

end DifferenceTypes.Operator
