import DifferenceTypes.Object.Access
import DifferenceTypes.Object.Description
import DifferenceTypes.Object.Sequence

/-!
# Positional classes

A positional class is a list whose items are the fields of a record. The subscript of a positional
base fixes how many fields there are, and an instance is not made of any other number; the last such
base of a class counts, and a class that has none takes the number from its ancestors.

Two instances are equal if they are of the same class and have equal items, so an instance is never
equal to a plain list nor to an instance of a derived class.
-/

namespace DifferenceTypes.Positional

variable {κ : Type}

/-- The attribute that holds the number of fields. -/
def arityName : String := "__arity__"

/-- The number of fields that the bases of a class fix. -/
def arity? (bases : List Value) : Option Nat :=
  bases.foldl (fun found base =>
    match base with
    | .subscribed (.builtin .positional) arguments => some arguments.length
    | _ => found) none

/-- The number of fields that a class has, if it is fixed. -/
def arityOf (world : World κ) (identity : ClassId) : Value :=
  (world.attributeOfClass? identity arityName).getD .none

/-- Fails unless as many items are given as the class of a value has fields. -/
def checkCount (call : Caller κ) (self : Value) (items : List Value) : Run κ Unit := do
  let world ← get
  let identity := world.classOf self
  let arity := arityOf world identity
  if !arity.same .none then
    let fits ← match arity with
      | .integer expected => pure (expected == items.length)
      | other => Comparison.isEqual call (.integer items.length) other
    if !fits then
      throw (.wrongCount (Text.ofString (world.className identity))
        (← Description.plain call arity) items.length)

/-- Makes an instance of its items. -/
def fill (call : Caller κ) (arguments : Arguments) : Run κ Value := do
  match arguments.positional with
  | [] => throw .wrongType
  | self :: items =>
    if !arguments.named.isEmpty then throw .wrongType
    checkCount call self items
    Sequence.put self items
    return .none

/-- Whether two values are of one class and have equal items. -/
def equal (call : Caller κ) (self other : Value) : Run κ Value := do
  let world ← get
  if world.classOf other == world.classOf self then Comparison.equalContent call self other
  else return .truth false

/-- Whether two values differ: the opposite of their equality. -/
def different (call : Caller κ) (self other : Value) : Run κ Value := do
  let answer ← Comparison.ask call "__eq__" self [other]
  return .truth (!(← get).isTrue answer)

/-- The description of an instance: the name of its class and its items. -/
def describe (call : Caller κ) (self : Value) : Run κ Text := do
  let items ← Run.elements self
  let texts ← Description.describeAll call items
  let world ← get
  return Text.ofString (world.className (world.classOf self)) ++ "(" ++ Text.join ", " texts ++ ")"

end DifferenceTypes.Positional
