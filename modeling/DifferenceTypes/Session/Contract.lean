import DifferenceTypes.Evaluation.Call
import DifferenceTypes.Object.Observe

/-!
# Leaf contracts of a session

The leaf contracts that can be registered in a session. Each one goes by its manner: it works with
numbers, replaces a value by another one, keeps both values, compares collections by what was added
behind, or fails. One manner also writes down every call.
-/

namespace DifferenceTypes

/-- How a leaf contract treats values. -/
inductive Manner where
  /-- A difference is the one of numbers, and is added. -/
  | difference
  /-- A difference is the new value. -/
  | replacement
  /-- A difference holds the old value and the new one. -/
  | pair
  /-- A difference is what a collection has behind the length of the other, and is put behind. -/
  | extension
  /-- As `difference`, and every call is written down. -/
  | observed
  /-- Every operation fails. -/
  | failing
  deriving DecidableEq, Repr, Inhabited

/-- A leaf contract: its manner, the type that it was registered for and the label of that type, and
the value to start from if one was given. -/
structure SessionContract where
  manner : Manner
  type : Value
  label : Text
  start : Option Value
  deriving Inhabited

namespace SessionContract

/-- Writes down a call. -/
def observe (call : Caller SessionContract) (contract : SessionContract) (operation : String)
    (operands : List Value) : Run SessionContract Unit := do
  let seen ← Snapshot.takeAll call Evaluation.depthLimit operands
  Run.observe ⟨operation, contract.label, seen⟩

/-- The difference that leads from the first value to the second. -/
def diff (call : Caller SessionContract) (contract : SessionContract) (first second : Value) :
    Run SessionContract Value := do
  match contract.manner with
  | .difference => Operator.subtract second first
  | .replacement => return second
  | .pair => Run.createList [first, second]
  | .extension => Operator.dropItems second (← Operator.length first)
  | .observed =>
    observe call contract "diff" [first, second]
    Operator.subtract second first
  | .failing => throw .badValue

/-- The value with a difference brought into it. -/
def apply (call : Caller SessionContract) (contract : SessionContract) (value delta : Value) :
    Run SessionContract Value := do
  match contract.manner with
  | .difference | .extension => Operator.add value delta
  | .replacement => return delta
  | .pair => Operator.subscript call delta (.integer 1)
  | .observed =>
    observe call contract "apply" [value, delta]
    Operator.add value delta
  | .failing => throw .badValue

/-- The value to start from. -/
def identity (call : Caller SessionContract) (contract : SessionContract) :
    Run SessionContract Value := do
  match contract.manner with
  | .difference => return contract.start.getD (.integer 0)
  | .replacement => return contract.start.getD .none
  | .pair => Run.createList []
  | .extension => call contract.type ⟨[], []⟩
  | .observed =>
    observe call contract "identity" []
    return contract.start.getD (.integer 0)
  | .failing => throw .badValue

/-- What the leaf contracts of a session do. -/
def behaviour : Contract.Behaviour SessionContract :=
  ⟨diff, apply, identity⟩

/-- Calls a value in a session. -/
def call : Caller SessionContract :=
  Evaluation.call behaviour

end SessionContract

end DifferenceTypes
