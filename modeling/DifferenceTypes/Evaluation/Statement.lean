import DifferenceTypes.Evaluation.Expression
import DifferenceTypes.Object.Derivation
import DifferenceTypes.Syntax.Printer.Expression

/-!
# Running statements

What the statements of a body do, one after the other, until one of them returns. A definition
evaluates its decorators first and applies them last, the nearest one to the definition first. A
class is derived after its body was run, and its body's names become its attributes.

A declaration of a name notes the declared type: as its value, or as its text if types are kept as
text. In the body of a function declared types are not looked at.

Loops, handlers and other statements that neither templates nor generated code have are not covered.
-/

namespace DifferenceTypes.Evaluation

variable {κ : Type}

/-- How a statement ends: the next one follows, or the body returns. -/
inductive Flow where
  | next
  | returned (value : Value)
  deriving Inhabited

mutual

/-- The names that a target of an assignment sets. -/
def targetNames {σ : Type} : Expr σ → List String
  | .name _ identifier => [identifier]
  | .tuple _ elements | .list _ elements => targetNamesOfAll elements
  | .starred _ value => targetNames value
  | _ => []

/-- The names that targets of an assignment set. -/
def targetNamesOfAll {σ : Type} : List (Expr σ) → List String
  | [] => []
  | first :: rest => targetNames first ++ targetNamesOfAll rest

end

mutual

/-- The names that a statement sets in the body that it belongs to. -/
def setNames : Stmt Unit → List String
  | .assign _ targets _ => targetNamesOfAll targets
  | .augment _ target _ _ | .declare _ target _ _ _ => targetNames target
  | .delete _ targets => targetNamesOfAll targets
  | .imports _ names | .importsFrom _ _ _ names => names.map ImportedName.boundName
  | .function _ _ identifier _ _ _ _ | .classDefinition _ identifier _ _ _ _ => [identifier]
  | .conditional _ _ body otherwise => setNamesOfAll body ++ setNamesOfAll otherwise
  | _ => []

/-- The names that statements set. -/
def setNamesOfAll : List (Stmt Unit) → List String
  | [] => []
  | first :: rest => setNames first ++ setNamesOfAll rest

end

/-- The names that the body of a function has for itself. -/
def ownNames (function : Function) : List String :=
  (function.parameters.toList.map Parameter.identifier ++ setNamesOfAll function.body).map
    (Frame.keptName function.owner)

/-- A declared type: its value, or its text if types are kept as text. -/
def declaredType (call : Caller κ) (type : Expr Unit) : Evaluation κ Value := do
  if (← get).postponed then
    match type.print? with
    | .ok text => return .text text
    | .error _ => throw .badValue
  else eval call type

/-- Notes the declared type of a name that stands alone. The type of any other target is looked at,
and in the body of a function no declared type is. -/
def declareTarget (call : Caller κ) (target type : Expr Unit) (simple : Bool) : Evaluation κ Unit := do
  let frame ← get
  match frame.place, target with
  | .function _, _ => return ()
  | _, .name _ identifier =>
    if simple then declareName identifier (← declaredType call type)
    else if !frame.postponed then discard (eval call type)
  | _, _ => if !frame.postponed then discard (eval call type)

/-- Assigns values to the targets one by one. -/
def assign (call : Caller κ) (value : Value) : Expr Unit → Evaluation κ Unit
  | .name _ identifier => setName identifier value
  | .attribute _ object identifier => do
    let target ← eval call object
    let name := Frame.keptName (← get).owner identifier
    inWorld (Access.set call target name value)
  | .subscript _ object index => do
    let target ← eval call object
    let place ← eval call index
    inWorld (Operator.assignSubscript call target place value)
  | .tuple _ elements | .list _ elements => do
    let items ← inWorld (Run.elements value)
    if elements.length != items.length then throw .badValue
    assignAll items elements
  | _ => throw .unsupported
where
  /-- Assigns one value to each of the names. -/
  assignAll : List Value → List (Expr Unit) → Evaluation κ Unit
    | item :: items, .name _ identifier :: rest => do
      setName identifier item
      assignAll items rest
    | [], [] => return ()
    | _, _ => throw .unsupported

/-- The value of an augmented assignment. A list takes the elements in. -/
def augmented (call : Caller κ) (operator : BinaryOperator) (value operand : Value) :
    Run κ Value := do
  match operator, value with
  | .add, .object ref =>
    let object ← Run.object ref
    match object.content with
    | .items items =>
      Run.putItems ref (items ++ (← Run.elements operand))
      return value
    | _ => Operator.apply call operator value operand
  | _, _ => Operator.apply call operator value operand

/-- What an import of a module binds. -/
def importModule (imported : ImportedName) : Evaluation κ Unit := do
  match Library.ofPath? imported.path with
  | none => throw .missingModule
  | some library =>
    match imported.boundAs with
    | some boundAs => setName boundAs (.library library)
    | none =>
      match Library.ofPath? (firstPart imported.path) with
      | some first => setName (firstPart imported.path) (.library first)
      | none => throw .missingModule

/-- What an import from a module binds. -/
def importName (library : Library) (imported : ImportedName) : Evaluation κ Unit := do
  if imported.path == "*" then throw .unsupported
  match library.attribute? imported.path with
  | none => throw .missingImport
  | some value =>
    if library == .future && imported.path == "annotations" then
      modify fun frame => { frame with postponed := true }
    setName (imported.boundAs.getD imported.path) value

/-- The function that a definition makes. The types of its parameters are looked at and not kept. -/
def makeFunction (call : Caller κ) (identifier : String) (parameters : Parameters Unit)
    (body : List (Stmt Unit)) : Evaluation κ Function := do
  let defaults ← evalDefaults call parameters
  let frame ← get
  if !frame.postponed then
    (parameters.toList.filterMap Parameter.type?).forM fun type => discard (eval call type)
  return ⟨identifier, frame.qualifier ++ identifier, parameters, defaults, body, frame.owner,
    frame.postponed⟩

/-- Applies decorators, the last one first. -/
def decorate (call : Caller κ) (value : Value) (decorators : List Value) : Run κ Value :=
  decorators.foldrM (fun decorator decorated => call decorator ⟨[decorated], []⟩) value

/-- The name of the exception that a value raises. -/
def exceptionName (world : World κ) (value : Value) : Except Failure String :=
  let ofClass (identity : ClassId) : Except Failure String :=
    if world.isSubclass identity (.builtin (.exception "BaseException")) then
      .ok (world.className identity)
    else .error .wrongType
  match value with
  | .ofClass identity => ofClass identity
  | .object _ => ofClass (world.classOf value)
  | _ => .error .wrongType

mutual

/-- Runs a statement. -/
def run (call : Caller κ) : Stmt Unit → Evaluation κ Flow
  | .expression _ value => do
    discard (eval call value)
    return .next
  | .assign _ targets value => do
    let result ← eval call value
    targets.forM (assign call result)
    return .next
  | .augment _ target operator value => do
    let current ← eval call target
    let operand ← eval call value
    let result ← inWorld (augmented call operator current operand)
    assign call result target
    return .next
  | .declare _ target type value simple => do
    if let some given := value then
      let result ← eval call given
      assign call result target
    declareTarget call target type simple
    return .next
  | .delete _ targets => do
    targets.forM fun
      | .name _ identifier => removeName identifier
      | .attribute _ object identifier => do
        let target ← eval call object
        let name := Frame.keptName (← get).owner identifier
        inWorld (Access.remove target name)
      | _ => throw .unsupported
    return .next
  | .returns _ value => do
    match value with
    | some result => return .returned (← eval call result)
    | none => return .returned .none
  | .raises _ exception _ => do
    match exception with
    | some raised =>
      let value ← eval call raised
      throw (match exceptionName (← Evaluation.world) value with
        | .ok name => .raised name
        | .error failure => failure)
    | none => throw (.raised "RuntimeError")
  | .asserts _ test _ => do
    let condition ← eval call test
    if (← Evaluation.world).isTrue condition then return .next else throw .failedAssertion
  | .pass _ => return .next
  | .globals _ identifiers => do
    modify fun frame =>
      { frame with shared := identifiers.map (Frame.keptName frame.owner) ++ frame.shared }
    return .next
  | .imports _ names => do
    names.forM importModule
    return .next
  | .importsFrom _ level path names => do
    if level != 0 then throw .missingImport
    match Library.ofPath? (path.getD "") with
    | some library => names.forM (importName library)
    | none => throw .missingModule
    return .next
  | .function _ isAsync identifier parameters body decorators _ => do
    if isAsync then throw .unsupported
    let applied ← evalAll call decorators
    let function ← makeFunction call identifier parameters body
    let value ← inWorld (do
      let value ← Run.create ⟨.builtin .function, .function function, []⟩
      decorate call value applied)
    setName identifier value
    return .next
  | .classDefinition _ identifier bases keywords body decorators => do
    let applied ← evalAll call decorators
    let written ← evalAll call bases
    let given ← evalKeywords call ⟨[], []⟩ keywords
    let frame ← get
    let world ← Evaluation.world
    discard (ofExcept (Derivation.resolve world written written))
    let qualified := frame.qualifier ++ identifier
    let (_, inner) ← inWorld
      (StateT.run (runAll call body) (Frame.ofClass identifier qualified frame.postponed))
    if given.named.any fun (name, value) => name != "metaclass" || !value.same (.builtin .type) then
      throw .wrongType
    let value ← inWorld (do
      let derived ← Derivation.derive identifier qualified written inner.bindings inner.annotations
      decorate call (.ofClass derived) applied)
    setName identifier value
    return .next
  | .conditional _ test body otherwise => do
    let condition ← eval call test
    if (← Evaluation.world).isTrue condition then runAll call body else runAll call otherwise
  | _ => throw .unsupported

/-- Runs statements until one of them returns. -/
def runAll (call : Caller κ) : List (Stmt Unit) → Evaluation κ Flow
  | [] => return .next
  | first :: rest => do
    match ← run call first with
    | .next => runAll call rest
    | .returned value => return .returned value

end

end DifferenceTypes.Evaluation
