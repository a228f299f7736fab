import DifferenceTypes.Contract.Installation
import DifferenceTypes.Evaluation.Application
import DifferenceTypes.Evaluation.Operation

/-!
# Calling values

What it means to call a value: a class makes an instance, a function is applied, an operation is
run, and a method hands its receiver on as the first argument. A type expression that can be called
makes an instance of the class that it subscribes and notes on it, if that can be done, which type
expression it was made by.

Calls nest, and a value may call itself without end. A call therefore has a depth that it may use
up, and a call at depth zero fails for that reason and no other.
-/

namespace DifferenceTypes.Evaluation

open Contract (Behaviour)

variable {κ : Type}

/-- How deeply calls may nest. -/
def depthLimit : Nat := 1000

/-- The attribute that notes which type expression made an instance. -/
def makerName : String := "__orig_class__"

/-- Makes an instance by a type expression for a class. -/
def makeByForm (call : Caller κ) (form origin : Value) (arguments : Arguments) : Run κ Value := do
  let value ← call origin arguments
  try Access.set call value makerName form catch _ => pure ()
  return value

/-- Calls an object by what it is made of or by the method that its class has for it. -/
def callObject (call : Caller κ) (ref : Ref) (arguments : Arguments) : Run κ Value := do
  let object ← Run.object ref
  match object.content with
  | .function function => applyFunction call function arguments
  | _ =>
    let world ← get
    match world.classAttribute? object.classId "__call__" with
    | some found => call (world.boundToInstance (.object ref) found) arguments
    | none => throw .wrongType

/-- Calls a value, all calls inside it going to a caller. -/
def callBy (behaviour : Behaviour κ) (call : Caller κ) : Caller κ
  | .ofClass identity, arguments => Instance.construct call identity arguments
  | .primitive operation, arguments => Operation.run behaviour call operation arguments
  | .object ref, arguments => callObject call ref arguments
  | .method receiver function, arguments =>
    callBy behaviour call function { arguments with positional := receiver :: arguments.positional }
  | .staticMethod function, arguments => callBy behaviour call function arguments
  | .installer target, ⟨[implementation], []⟩ => Contract.install call target implementation
  | .recordMaker options, ⟨[target], []⟩ => Record.make options target
  | .subscribed origin parameters, arguments =>
    makeByForm call (.subscribed origin parameters) origin arguments
  | .parameterized (.ofClass origin) none parameters, arguments =>
    makeByForm call (.parameterized origin none parameters) origin arguments
  | .annotated origin metadata, arguments =>
    makeByForm call (.annotated origin metadata) origin arguments
  | _, _ => throw .wrongType

/-- Calls a value, calls inside it nesting no deeper than the count allows. -/
def callWithin (behaviour : Behaviour κ) : Nat → Caller κ
  | 0, _, _ => throw .tooDeep
  | depth + 1, callee, arguments => callBy behaviour (callWithin behaviour depth) callee arguments

/-- Calls a value. -/
def call (behaviour : Behaviour κ) : Caller κ :=
  callWithin behaviour depthLimit

end DifferenceTypes.Evaluation
