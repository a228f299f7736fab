import DifferenceTypes.Object.Failure
import DifferenceTypes.Object.Snapshot
import DifferenceTypes.Object.Value
import DifferenceTypes.Syntax.Tree

/-!
# The world of a module

The state that a module's statements and the operations on its objects work on: the classes and
objects made so far, the names of the module, the leaf contracts, and a log in which contracts may
write down how they were called.

A computation runs in a world and ends with a value or a failure; the changes made before a failure
stay. The world does not fix what leaf contracts are: they are values of a type `κ`, and a
computation is told elsewhere what they do.
-/

namespace DifferenceTypes

/-- A function that a module defines. The parameters' defaults are kept under the parameters'
names. -/
structure Function where
  name : String
  qualifiedName : String
  parameters : Parameters Unit
  defaults : Attributes
  body : List (Stmt Unit)
  /-- The class whose private names the body uses. -/
  owner : Option String
  /-- Whether declared types are kept as text. -/
  postponed : Bool

instance : Inhabited Function := ⟨"", "", .parameters [] [] none [] none, [], [], none, false⟩

/-- What a declaration in the body of a record class stands for. -/
inductive RecordRole where
  | field
  /-- A parameter of the initialization only. -/
  | parameter
  | classVariable
  deriving DecidableEq, Repr, Inhabited

/-- A declaration of a record class. -/
structure RecordField where
  name : String
  role : RecordRole
  default : Option Value
  factory : Option Value
  fill : Bool
  describe : Bool
  compare : Bool
  hash : Option Bool
  keywordOnly : Option Bool
  deriving Repr, Inhabited

/-- What makes a class a record class: its declarations with those of its bases. -/
structure RecordDefinition where
  fields : List RecordField
  frozen : Bool
  /-- Whether a method completes the initialization. -/
  completes : Bool
  deriving Repr, Inhabited

/-- A class that a module defines. -/
structure ClassRecord where
  name : String
  qualifiedName : String
  bases : List ClassId
  /-- The bases as they were written, if some of them were no classes. -/
  writtenBases : Option (List Value)
  /-- The class and its ancestors in the order in which attributes are looked up. -/
  ancestors : List ClassId
  attributes : Attributes
  annotations : Attributes
  /-- The type variables of a generic class. -/
  parameters : List Value
  record : Option RecordDefinition
  deriving Inhabited

/-- What an object is made of, besides its attributes. -/
inductive Content where
  | plain
  | items (items : List Value)
  | entries (entries : List (Value × Value))
  /-- The plain value inside an object of a class derived from that of plain values. -/
  | scalar (value : Value)
  | function (function : Function)
  | fieldDraft (field : RecordField)
  deriving Inhabited

/-- An object: its class, what it is made of, and its attributes. -/
structure Object where
  classId : ClassId
  content : Content
  attributes : Attributes
  deriving Inhabited

namespace ClassRecord

/-- The class with a value under a name. Its own names are kept apart from its attributes. -/
def assign (record : ClassRecord) (name : String) (value : Value) : ClassRecord :=
  match name, value with
  | "__name__", .text text => { record with name := text.string?.getD record.name }
  | "__qualname__", .text text =>
    { record with qualifiedName := text.string?.getD record.qualifiedName }
  | _, _ => { record with attributes := record.attributes.set name value }

/-- The class without the attribute under a name. -/
def removeAttribute (record : ClassRecord) (name : String) : ClassRecord :=
  { record with attributes := record.attributes.remove name }

end ClassRecord

namespace Object

/-- The object with a value under a name. -/
def setAttribute (object : Object) (name : String) (value : Value) : Object :=
  { object with attributes := object.attributes.set name value }

/-- The object without the value under a name. -/
def removeAttribute (object : Object) (name : String) : Object :=
  { object with attributes := object.attributes.remove name }

/-- A list with other items. What is no list stays as it is. -/
def withItems (object : Object) (items : List Value) : Object :=
  match object.content with
  | .items _ => { object with content := .items items }
  | _ => object

/-- A dictionary with other entries. What is no dictionary stays as it is. -/
def withEntries (object : Object) (entries : List (Value × Value)) : Object :=
  match object.content with
  | .entries _ => { object with content := .entries entries }
  | _ => object

end Object

/-- A leaf contract under the type that differences of its values have. -/
structure Leaf (κ : Type) where
  representation : Value
  contract : κ

/-- How a contract was called: the operation, the contract's label, and the operands as they were
then. -/
structure Observation where
  operation : String
  label : Text
  operands : List Snapshot
  deriving Inhabited

/-- The state. -/
structure World (κ : Type) where
  classes : Array ClassRecord
  objects : Array Object
  /-- Attributes set on built-in classes. -/
  extensions : List (BuiltinClass × Attributes)
  /-- The names of the module. -/
  module : Attributes
  /-- The types declared for names of the module. -/
  annotations : Attributes
  leaves : List (Value × Leaf κ)
  log : List Observation
  /-- The objects whose descriptions are being put together. -/
  described : List Ref

/-- The world before anything was done. -/
def World.empty {κ : Type} : World κ :=
  ⟨#[], #[], [], [], [], [], [], []⟩

instance {κ : Type} : Inhabited (World κ) := ⟨World.empty⟩

/-- A computation in a world. -/
abbrev Run (κ : Type) (α : Type) := ExceptT Failure (StateM (World κ)) α

/-- The arguments of a call. -/
structure Arguments where
  positional : List Value := []
  named : Attributes := []
  deriving Inhabited

/-- How values are called. -/
abbrev Caller (κ : Type) := Value → Arguments → Run κ Value

namespace Run

variable {κ : Type}

/-- The object at a reference. -/
def object (ref : Ref) : Run κ Object := do
  match (← get).objects[ref]? with
  | some found => return found
  | none => throw .unsupported

/-- Changes the object at a reference. -/
def changeObject (ref : Ref) (change : Object → Object) : Run κ Unit :=
  modify fun world => { world with objects := world.objects.modify ref change }

/-- Gives a list other items. -/
def putItems (ref : Ref) (items : List Value) : Run κ Unit :=
  changeObject ref (·.withItems items)

/-- Gives a dictionary other entries. -/
def putEntries (ref : Ref) (entries : List (Value × Value)) : Run κ Unit :=
  changeObject ref (·.withEntries entries)

/-- A new object. -/
def create (object : Object) : Run κ Value := do
  let world ← get
  set { world with objects := world.objects.push object }
  return .object world.objects.size

/-- A new list. -/
def createList (items : List Value) : Run κ Value :=
  create ⟨.builtin .list, .items items, []⟩

/-- A new dictionary. -/
def createDictionary (entries : List (Value × Value)) : Run κ Value :=
  create ⟨.builtin .dictionary, .entries entries, []⟩

/-- The record of a class that a module defined. -/
def classRecord (index : Nat) : Run κ ClassRecord := do
  match (← get).classes[index]? with
  | some found => return found
  | none => throw .unsupported

/-- Changes the record at an index. -/
def changeClass (index : Nat) (change : ClassRecord → ClassRecord) : Run κ Unit :=
  modify fun world => { world with classes := world.classes.modify index change }

/-- A new class. -/
def createClass (record : ClassRecord) : Run κ ClassId := do
  let world ← get
  set { world with classes := world.classes.push record }
  return .defined world.classes.size

/-- The description of an object, or a mark if it is being put together already and would not
end. -/
def describing (ref : Ref) (mark : Text) (description : Run κ Text) : Run κ Text := do
  if (← get).described.elem ref then return mark
  modify fun world => { world with described := ref :: world.described }
  let text ← try description catch failure =>
    modify fun world => { world with described := world.described.erase ref }
    throw failure
  modify fun world => { world with described := world.described.erase ref }
  return text

/-- Writes down how a contract was called. -/
def observe (observation : Observation) : Run κ Unit :=
  modify fun world => { world with log := world.log ++ [observation] }

end Run

end DifferenceTypes
