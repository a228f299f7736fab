import DifferenceTypes.Object.Description
import DifferenceTypes.Record.Definition

/-!
# Methods of record classes

What the methods do that a record class was given. They go by the declarations of the class that was
made a record class, also on instances of classes derived from it.

The initialization takes its parameters by position or by keyword and sets the fields in the order
of the declarations. A frozen record sets them past its own refusal to be changed.
-/

namespace DifferenceTypes.Record

variable {κ : Type}

/-- The declarations of a record class. -/
def definition (owner : ClassId) : Run κ RecordDefinition := do
  match ((← get).record? owner).bind (·.record) with
  | some found => return found
  | none => throw .wrongType

/-- The given values under the names of the parameters that they stand for. -/
def assigned (fields : List RecordField) (arguments : List Value) (named : Attributes) :
    Except Failure Attributes :=
  let positional := positionalParameters fields
  let keyword := keywordParameters fields
  let byPosition := (positional.map (·.name)).zip arguments
  let isParameter (name : String) : Bool := (positional ++ keyword).any (·.name == name)
  if arguments.length > positional.length then .error .wrongType
  else if named.any fun (name, _) => !isParameter name || (byPosition.lookup name).isSome then
    .error .wrongType
  else
    let given := byPosition ++ named
    let isMissing (field : RecordField) : Bool :=
      (given.lookup field.name).isNone && field.default.isNone && field.factory.isNone
    if (positional ++ keyword).any isMissing then .error .wrongType else .ok given

/-- The value that a declaration starts with, if it starts with any. -/
def start? (call : Caller κ) (given : Attributes) (field : RecordField) : Run κ (Option Value) := do
  match if field.fill then given.lookup field.name else none with
  | some value => return some value
  | none =>
    match field.factory with
    | some factory => return some (← call factory ⟨[], []⟩)
    | none => return if field.fill then field.default else none

/-- Sets the fields of an instance. -/
def setFields (call : Caller κ) (frozen : Bool) (self : Value) (given : Attributes) :
    List RecordField → Run κ Unit
  | [] => return ()
  | field :: rest => do
    if field.role == .field then
      match ← start? call given field with
      | some value =>
        if frozen then Access.assign self field.name value
        else Access.set call self field.name value
      | none => return ()
    setFields call frozen self given rest

/-- The values of the parameters that are no fields. -/
def completionArguments (call : Caller κ) (given : Attributes) (fields : List RecordField) :
    Run κ (List Value) := do
  let parameters := fields.filter (·.role == .parameter)
  let values ← parameters.mapM fun field => start? call given field
  return values.filterMap id

/-- Initializes an instance. -/
def fill (call : Caller κ) (owner : ClassId) (arguments : Arguments) : Run κ Value := do
  let definition ← definition owner
  match arguments.positional with
  | [] => throw .wrongType
  | self :: values =>
    match assigned definition.fields values arguments.named with
    | .error failure => throw failure
    | .ok given =>
      setFields call definition.frozen self given definition.fields
      if definition.completes then
        let completion ← Access.get self "__post_init__"
        discard (call completion ⟨← completionArguments call given definition.fields, []⟩)
      return .none

/-- The values of fields, in their order. -/
def fieldValues (self : Value) : List RecordField → Run κ (List Value)
  | [] => return []
  | field :: rest => do
    let value ← Access.get self field.name
    return value :: (← fieldValues self rest)

/-- Compares two instances of one class by the fields that count for it. -/
def equal (call : Caller κ) (owner : ClassId) (first second : Value) : Run κ Value := do
  let world ← get
  if world.classOf first != world.classOf second then return .undecided
  let fields :=
    (← definition owner).fields.filter fun field => field.role == .field && field.compare
  let left ← fieldValues first fields
  let right ← fieldValues second fields
  return .truth (← Comparison.areEqual call left right)

/-- Fails unless the fields that count for it can be hashed. -/
def checkHashable (call : Caller κ) (owner : ClassId) (self : Value) : Run κ Unit := do
  let fields := (← definition owner).fields.filter fun field =>
    field.role == .field && field.hash.getD field.compare
  Comparison.checkAllHashable call (← fieldValues self fields)

/-- Fields with their values as they are described. -/
def describeFields (call : Caller κ) (self : Value) : List RecordField → Run κ (List Text)
  | [] => return []
  | field :: rest => do
    let text ← Description.describe call (← Access.get self field.name)
    return (Text.ofString field.name ++ "=" ++ text) :: (← describeFields call self rest)

/-- The description of an instance: the name of its class and its fields with their values. An
instance that holds itself is described by a mark inside of its own description. -/
def describe (call : Caller κ) (owner : ClassId) (self : Value) : Run κ Text := do
  let fields :=
    (← definition owner).fields.filter fun field => field.role == .field && field.describe
  let world ← get
  Description.ofHolder self "..." (do
    let parts ← describeFields call self fields
    return Text.ofString (world.qualifiedName (world.classOf self)) ++ "(" ++
      Text.join ", " parts ++ ")")

/-- The attribute that stands behind the one of a class in the line of ancestors of a value's
class. -/
def attributeBehind (owner : ClassId) (self : Value) (name : String) : Run κ Value := do
  let world ← get
  let behind := ((world.ancestors (world.classOf self)).dropWhile (· != owner)).drop 1
  match behind.findSome? fun ancestor => world.ownAttribute? ancestor name with
  | some found => return found
  | none => throw .missingAttribute

/-- Whether an instance of a frozen record class keeps the value of a name. -/
def isKept (owner : ClassId) (self : Value) (name : String) : Run κ Bool := do
  let world ← get
  let fields := (← definition owner).fields.filter (·.role == .field)
  return world.classOf self == owner || fields.any (·.name == name)

/-- Refuses a new value for a field of a frozen record. -/
def assign (call : Caller κ) (owner : ClassId) (self name new : Value) : Run κ Value := do
  let field ← Access.name name
  if ← isKept owner self field then throw .frozenRecord
  match ← attributeBehind owner self "__setattr__" with
  | .primitive .assign =>
    Access.assign self field new
    return .none
  | other => call other ⟨[self, name, new], []⟩

/-- Refuses to remove a field of a frozen record. -/
def erase (call : Caller κ) (owner : ClassId) (self name : Value) : Run κ Value := do
  let field ← Access.name name
  if ← isKept owner self field then throw .frozenRecord
  match ← attributeBehind owner self "__delattr__" with
  | .primitive .erase =>
    Access.remove self field
    return .none
  | other => call other ⟨[self, name], []⟩

end DifferenceTypes.Record
