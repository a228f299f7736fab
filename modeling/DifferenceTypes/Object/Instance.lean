import DifferenceTypes.Object.Access
import DifferenceTypes.Object.Conversion

/-!
# Making instances

Calling a class makes an instance in two steps. First it is made with nothing but its layout: a list
without items, an integer with its value, or an object without attributes. Then the class's method
for it completes the instance. The first step alone gives an instance that was never completed.
-/

namespace DifferenceTypes.Instance

variable {κ : Type}

/-- The object of a derived class around a plain value, or the plain value itself for the built-in
class. -/
def wrap (identity : ClassId) (plain : Value) : Run κ Value :=
  match identity with
  | .builtin _ => return plain
  | .defined _ => Run.create ⟨identity, .scalar plain, []⟩

/-- Whether a class leaves the completion of its instances to the class of all objects. -/
def completesNothing (world : World κ) (identity : ClassId) : Bool :=
  match world.classAttribute? identity "__init__" with
  | some (.primitive .fillObject) => true
  | _ => false

/-- A type variable that is told apart from all others. -/
def typeVariable (arguments : List Value) : Run κ Value := do
  match arguments with
  | .text name :: _ =>
    let world ← get
    set { world with objects := world.objects.push default }
    return .typeVariable world.objects.size name
  | _ => throw .wrongType

/-- An instance of a class whose instances have no layout of their own. -/
def makePlain (identity : ClassId) (arguments : Arguments) : Run κ Value := do
  let world ← get
  match identity with
  | .builtin .any | .builtin .annotated | .builtin (.collection _) => throw .wrongType
  | _ =>
    let hasArguments := !(arguments.positional.isEmpty && arguments.named.isEmpty)
    if hasArguments &&
      (completesNothing world identity || world.isSubclass identity (.builtin .any)) then
      throw .wrongType
    Run.create ⟨identity, .plain, []⟩

/-- An instance of a class before it is completed. -/
def make (call : Caller κ) (identity : ClassId) (arguments : Arguments) : Run κ Value := do
  let world ← get
  match world.layout identity with
  | .object => makePlain identity arguments
  | .exception _ => Run.create ⟨identity, .plain, []⟩
  | .list => Run.create ⟨identity, .items [], []⟩
  | .dictionary => Run.create ⟨identity, .entries (← Conversion.toEntries call arguments), []⟩
  | .integer =>
    if identity == .builtin .truth then
      match arguments.positional with
      | [] => return .truth false
      | [value] => return .truth (world.isTrue value)
      | _ => throw .wrongType
    else wrap identity (.integer (← Conversion.toInteger arguments.positional))
  | .real => wrap identity (.real (← Conversion.toReal arguments.positional))
  | .text => wrap identity (.text (← Conversion.toText call arguments.positional))
  | .tuple => wrap identity (.tuple (← Conversion.toItems arguments.positional))
  | .noneType => if arguments.positional.isEmpty then return .none else throw .wrongType
  | .classMethod =>
    match arguments.positional with
    | [function] => return .classMethod function
    | _ => throw .wrongType
  | .staticMethod =>
    match arguments.positional with
    | [function] => return .staticMethod function
    | _ => throw .wrongType
  | .typeVariable => typeVariable arguments.positional
  | .initializer =>
    match arguments.positional with
    | [type] => return .initializer type
    | _ => throw .wrongType
  | .type | .set | .frozenSet | .bytes => throw .unsupported
  | _ => throw .wrongType

/-- Completes an instance by the method that its class has for it. -/
def complete (call : Caller κ) (identity : ClassId) (value : Value) (arguments : Arguments) :
    Run κ Unit := do
  let world ← get
  match world.classAttribute? identity "__init__" with
  | none | some (.primitive .fillObject) => return ()
  | some (.primitive operation) =>
    discard (call (.primitive operation)
      { arguments with positional := value :: arguments.positional })
  | some found =>
    let answer ← call (world.boundToInstance value found) arguments
    if !answer.same .none then throw .wrongType

/-- Calls a class. The class of classes gives the class of its one argument. -/
def construct (call : Caller κ) (identity : ClassId) (arguments : Arguments) : Run κ Value := do
  let world ← get
  match identity, arguments.positional with
  | .builtin .type, [value] => return .ofClass (world.classOf value)
  | _, _ =>
    let value ← match world.classAttribute? identity "__new__" with
      | some (.staticMethod (.primitive .newObject)) | none => make call identity arguments
      | some (.staticMethod found) | some found =>
        call found { arguments with positional := .ofClass identity :: arguments.positional }
    let after ← get
    if after.isSubclass (after.classOf value) identity then complete call identity value arguments
    return value

end DifferenceTypes.Instance
