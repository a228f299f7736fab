import DifferenceTypes.Contract.Dispatch
import DifferenceTypes.Contract.Positional
import DifferenceTypes.Object.Instance
import DifferenceTypes.Object.Sequence
import DifferenceTypes.Record.Method

/-!
# Operations that no module defines

What every operation does that stands under a name without a module having defined it: the
operations of the contract, the functions of general use, and the methods of objects, collections,
positional classes and record classes.

The operations of the contract take their arguments by position or by name, all others by position
alone.
-/

namespace DifferenceTypes.Operation

open Contract (Behaviour)

variable {κ : Type}

/-- The arguments for parameters with the given names, in the order of the names. -/
def inOrder (names : List String) (arguments : Arguments) : Run κ (List Value) := do
  let later := names.drop arguments.positional.length
  if names.length < arguments.positional.length ||
    arguments.named.any fun (name, _) => !later.elem name then
    throw .wrongType
  let named := later.filterMap arguments.named.get?
  if named.length == later.length then return arguments.positional ++ named else throw .wrongType

/-- The arguments of an operation that takes them by position alone. -/
def byPosition (arguments : Arguments) : Run κ (List Value) :=
  if arguments.named.isEmpty then return arguments.positional else throw .wrongType

/-- The classes that an instance is looked for in: a class, or those in a tuple. -/
def classesOf : Value → Except Failure (List ClassId)
  | .ofClass identity => .ok [identity]
  | .tuple items => items.mapM fun
    | .ofClass identity => .ok identity
    | _ => .error .wrongType
  | _ => .error .wrongType

/-- Whether a class is one of others or derived from one of them. -/
def isAmong (identity : ClassId) (classes : Value) : Run κ Value := do
  match classesOf classes with
  | .ok others =>
    let world ← get
    return .truth (others.any (world.isSubclass identity))
  | .error failure => throw failure

/-- The value of an attribute, or another value if there is none. -/
def attributeOr (value name default : Value) : Run κ Value := do
  let written ← Access.name name
  match Access.get? (← get) value written with
  | some found => return found
  | none => return default

/-- Whether the completion of an instance leaves arguments over that its class has no use for. -/
def refusesArguments (world : World κ) (self : Value) : Bool :=
  let identity := world.classOf self
  let makesPlainly := match world.classAttribute? identity "__new__" with
    | some (.staticMethod (.primitive .newObject)) => world.layout identity == .object
    | _ => false
  !Instance.completesNothing world identity || makesPlainly

/-- The operations of the contract. -/
def ofContract (behaviour : Behaviour κ) (call : Caller κ) (operation : Primitive)
    (arguments : Arguments) : Run κ Value := do
  match operation with
  | .diff =>
    match ← inOrder ["a", "b"] arguments with
    | [first, second] => Contract.diff behaviour call first second
    | _ => throw .wrongType
  | .apply =>
    match ← inOrder ["value", "delta"] arguments with
    | [value, delta] => Contract.apply behaviour call value delta
    | _ => throw .wrongType
  | .implements =>
    match ← inOrder ["target"] arguments with
    | [target] => return .installer target
    | _ => throw .wrongType
  | other =>
    match ← inOrder ["tp"] arguments with
    | [type] =>
      match other with
      | .identity => Contract.identity behaviour call type
      | .representation => Contract.representation call type
      | .isGenerated => return .truth (Contract.isGenerated (← get) type)
      | _ => throw .unsupported
    | _ => throw .wrongType

/-- The functions of general use. -/
def general (call : Caller κ) (operation : Primitive) (arguments : List Value) : Run κ Value := do
  match operation, arguments with
  | .equals, [first, second] => Comparison.equal call first second
  | .describe, [value] =>
    let answer ← Comparison.ask call "__repr__" value []
    match ← Run.view answer with
    | .scalar (.text _) => return answer
    | _ => throw .wrongType
  | .hash, [value] =>
    Comparison.checkHashable call value
    return .integer 0
  | .length, [value] =>
    match ← Comparison.ask call "__len__" value [] with
    | .undecided => throw .wrongType
    | answer => return answer
  | .getAttribute, [value, name] => Access.get value (← Access.name name)
  | .getAttribute, [value, name, default] => attributeOr value name default
  | .setAttribute, [value, name, new] =>
    Access.set call value (← Access.name name) new
    return .none
  | .hasAttribute, [value, name] =>
    let written ← Access.name name
    return .truth (Access.get? (← get) value written).isSome
  | .isInstance, [value, classes] => isAmong ((← get).classOf value) classes
  | .isSubclass, [.ofClass identity, classes] => isAmong identity classes
  | _, _ => throw .wrongType

/-- The methods of every object. -/
def ofObject (call : Caller κ) (operation : Primitive) (arguments : Arguments) : Run κ Value := do
  match operation, arguments.positional with
  | .newObject, .ofClass identity :: rest =>
    Instance.make call identity { arguments with positional := rest }
  | .fillObject, self :: rest =>
    if (!rest.isEmpty || !arguments.named.isEmpty) && refusesArguments (← get) self then
      throw .wrongType
    return .none
  | .sameObject, [first, second] => return if first.same second then .truth true else .undecided
  | .differs, [first, second] => Comparison.negated (← Comparison.ask call "__eq__" first [second])
  | .describeObject, [value] => return .text (← Description.ofObject value)
  | .hashObject, [_] => return .integer 0
  | .assign, [value, name, new] =>
    Access.assign value (← Access.name name) new
    return .none
  | .erase, [value, name] =>
    Access.remove value (← Access.name name)
    return .none
  | .ancestorLine, [.ofClass identity] =>
    let world ← get
    Run.createList ((world.ancestors identity).map .ofClass)
  | _, _ => throw .wrongType

/-- The methods of objects by their content. -/
def ofContent (call : Caller κ) (operation : Primitive) (arguments : List Value) : Run κ Value := do
  match operation, arguments with
  | .equalContent, [first, second] => Comparison.equalContent call first second
  | .differentContent, [first, second] =>
    Comparison.negated (← Comparison.equalContent call first second)
  | .describeContent, [value] => return .text (← Description.ofContent call value)
  | .hashContent, [value] =>
    Comparison.checkContentHashable call value
    return .integer 0
  | .getItem, [collection, index] => Operator.getItem call collection index
  | .setItem, [collection, index, value] =>
    Operator.setItem call collection index value
    return .none
  | .countItems, [collection] => return .integer (← Operator.length collection)
  | _, _ => throw .wrongType

/-- The methods of lists. -/
def ofList (call : Caller κ) (operation : Primitive) (arguments : List Value) : Run κ Value := do
  match operation, arguments with
  | .fillList, [list] =>
    Sequence.put list []
    return .none
  | .fillList, [list, source] =>
    Sequence.put list (← Run.elements source)
    return .none
  | .append, [list, item] =>
    Sequence.put list ((← Sequence.items list) ++ [item])
    return .none
  | .extend, [list, source] =>
    let added ← Run.elements source
    Sequence.put list ((← Sequence.items list) ++ added)
    return .none
  | .insert, [list, place, item] =>
    Sequence.insert list place item
    return .none
  | .pop, [list] => Sequence.pop list (.integer (-1))
  | .pop, [list, place] => Sequence.pop list place
  | .drop, [list, item] =>
    let items ← Sequence.items list
    let place ← Sequence.placeOf call item 0 items
    Sequence.put list (items.eraseIdx place)
    return .none
  | .placeOf, [list, item] =>
    return .integer (← Sequence.placeOf call item 0 (← Sequence.items list))
  | .occurrences, [list, item] =>
    return .integer (← Sequence.occurrences call item (← Sequence.items list))
  | .clear, [collection] =>
    Sequence.clear collection
    return .none
  | .copyList, [list] => Run.createList (← Sequence.items list)
  | .reverse, [list] =>
    Sequence.put list (← Sequence.items list).reverse
    return .none
  | _, _ => throw .wrongType

/-- The methods of positional classes, except for the one that completes an instance. -/
def ofPositional (call : Caller κ) (operation : Primitive) (arguments : List Value) :
    Run κ Value := do
  match operation, arguments with
  | .equalPositional, [self, other] => Positional.equal call self other
  | .differentPositional, [self, other] => Positional.different call self other
  | .describePositional, [self] => return .text (← Positional.describe call self)
  | _, _ => throw .wrongType

/-- The methods that a record class was given, except for the one that completes an instance. -/
def ofRecord (call : Caller κ) (operation : Primitive) (arguments : List Value) : Run κ Value := do
  match operation, arguments with
  | .equalRecord owner, [self, other] => Record.equal call owner self other
  | .describeRecord owner, [self] => return .text (← Record.describe call owner self)
  | .hashRecord owner, [self] =>
    Record.checkHashable call owner self
    return .integer 0
  | .assignRecord owner, [self, name, new] => Record.assign call owner self name new
  | .eraseRecord owner, [self, name] => Record.erase call owner self name
  | _, _ => throw .wrongType

/-- The functions that tell how they were called. -/
def ofEcho (operation : Primitive) (arguments : List Value) : Run κ Value := do
  match operation, arguments with
  | .echo told label, [first, second] =>
    Run.createList [.text (Text.ofString told), .text label, first, second]
  | .echoClass told label, [.ofClass identity] =>
    let world ← get
    Run.createList [.text (Text.ofString told), .text label,
      .text (Text.ofString (world.qualifiedName identity))]
  | _, _ => throw .wrongType

/-- Runs an operation. -/
def run (behaviour : Behaviour κ) (call : Caller κ) (operation : Primitive)
    (arguments : Arguments) : Run κ Value := do
  match operation with
  | .diff | .apply | .identity | .representation | .isGenerated | .implements =>
    ofContract behaviour call operation arguments
  | .makeRecord => Record.decorate arguments
  | .makeField => Record.field arguments
  | .recordFields => throw .unsupported
  | .newObject | .fillObject => ofObject call operation arguments
  | .fillPositional => Positional.fill call arguments
  | .fillRecord owner => Record.fill call owner arguments
  | .equals | .describe | .hash | .length | .getAttribute | .setAttribute | .hasAttribute
  | .isInstance | .isSubclass =>
    general call operation (← byPosition arguments)
  | .sameObject | .differs | .describeObject | .hashObject | .assign | .erase | .ancestorLine =>
    ofObject call operation { arguments with positional := ← byPosition arguments }
  | .equalContent | .differentContent | .describeContent | .hashContent | .getItem | .setItem
  | .countItems =>
    ofContent call operation (← byPosition arguments)
  | .fillList | .append | .extend | .insert | .pop | .drop | .placeOf | .occurrences | .clear
  | .copyList | .reverse =>
    ofList call operation (← byPosition arguments)
  | .equalPositional | .differentPositional | .describePositional =>
    ofPositional call operation (← byPosition arguments)
  | .equalRecord _ | .describeRecord _ | .hashRecord _ | .assignRecord _ | .eraseRecord _ =>
    ofRecord call operation (← byPosition arguments)
  | .echo _ _ | .echoClass _ _ => ofEcho operation (← byPosition arguments)

end DifferenceTypes.Operation
