import DifferenceTypes.Object.World

/-!
# Attributes

Where the value of an attribute is found. A class has attributes of its own and those of its
ancestors, the nearest first. An object has attributes of its own, and behind them those of its
class; a function found in the class comes together with the object it was asked of.

A type expression with a subscript passes a question for an attribute on to the class that it
subscribes, except for the names that only concern the expression itself.
-/

namespace DifferenceTypes

/-- Whether a name begins and ends with two underscores. -/
def isDunder (name : String) : Bool :=
  let characters := name.toList
  ['_', '_'].isPrefixOf characters && ['_', '_'].isPrefixOf characters.reverse

/-- Whether an operation comes together with the object whose class it was found in. -/
def Primitive.binds : Primitive → Bool
  | .equals | .describe | .hash | .length | .getAttribute | .setAttribute | .hasAttribute
  | .isInstance | .isSubclass | .newObject => false
  | _ => true

/-- Attributes that the classes of values with equality by content have. -/
def contentAttributes (hash : Value) : Attributes :=
  [("__eq__", .primitive .equalContent), ("__ne__", .primitive .differentContent),
    ("__repr__", .primitive .describeContent), ("__hash__", hash)]

/-- Attributes that collections have. -/
def collectionAttributes : Attributes :=
  [("__getitem__", .primitive .getItem), ("__len__", .primitive .countItems)]

namespace BuiltinClass

/-- The attributes that a built-in class has of its own. -/
def attributes : BuiltinClass → Attributes
  | .object =>
    [("__new__", .staticMethod (.primitive .newObject)), ("__init__", .primitive .fillObject),
      ("__eq__", .primitive .sameObject), ("__ne__", .primitive .differs),
      ("__repr__", .primitive .describeObject), ("__hash__", .primitive .hashObject),
      ("__setattr__", .primitive .assign), ("__delattr__", .primitive .erase)]
  | .type => [("mro", .primitive .ancestorLine), ("__repr__", .primitive .describeContent)]
  | .list =>
    contentAttributes .none ++ collectionAttributes ++
      [("__setitem__", .primitive .setItem), ("__init__", .primitive .fillList),
        ("append", .primitive .append), ("extend", .primitive .extend),
        ("insert", .primitive .insert), ("pop", .primitive .pop), ("remove", .primitive .drop),
        ("index", .primitive .placeOf), ("count", .primitive .occurrences),
        ("clear", .primitive .clear), ("copy", .primitive .copyList),
        ("reverse", .primitive .reverse)]
  | .dictionary =>
    contentAttributes .none ++ collectionAttributes ++
      [("__setitem__", .primitive .setItem), ("clear", .primitive .clear)]
  | .set => contentAttributes .none
  | .text | .bytes | .tuple => contentAttributes (.primitive .hashContent) ++ collectionAttributes
  | .noneType | .ellipsisType | .undecidedType | .integer | .real | .frozenSet | .method
  | .subscribed | .alternatives | .parameterized | .collectionForm | .specialForm | .typeVariable
  | .forwardReference | .initializer | .keywordMark | .function | .primitiveFunction
  | .module => contentAttributes (.primitive .hashContent)
  | .positional =>
    [("__arity__", .none), ("__init__", .primitive .fillPositional),
      ("__eq__", .primitive .equalPositional), ("__ne__", .primitive .differentPositional),
      ("__repr__", .primitive .describePositional), ("__hash__", .none)]
  | _ => []

end BuiltinClass

namespace World

variable {κ : Type}

/-- The line of ancestors of a class, itself first. -/
def ancestors (world : World κ) : ClassId → List ClassId
  | .builtin kind => kind.ancestors.map .builtin
  | .defined index =>
    match world.classes[index]? with
    | some record => record.ancestors
    | none => []

/-- Whether a class is another one or derived from it. -/
def isSubclass (world : World κ) (first second : ClassId) : Bool :=
  (world.ancestors first).elem second

/-- The attributes set on a built-in class. -/
def extension (world : World κ) (kind : BuiltinClass) : Attributes :=
  (world.extensions.lookup kind).getD []

/-- The attribute that a class has of its own. -/
def ownAttribute? (world : World κ) (identity : ClassId) (name : String) : Option Value :=
  match identity with
  | .builtin kind => ((world.extension kind).get? name).orElse fun _ => kind.attributes.get? name
  | .defined index => world.classes[index]?.bind fun record => record.attributes.get? name

/-- The attribute of a class, from the nearest ancestor that has it. -/
def classAttribute? (world : World κ) (identity : ClassId) (name : String) : Option Value :=
  (world.ancestors identity).findSome? fun ancestor => world.ownAttribute? ancestor name

/-- The class's record, if a module defined it. -/
def record? (world : World κ) : ClassId → Option ClassRecord
  | .builtin _ => none
  | .defined index => world.classes[index]?

/-- The name of a class. -/
def className (world : World κ) : ClassId → String
  | .builtin kind => kind.name
  | .defined index => ((world.classes[index]?).map (·.name)).getD ""

/-- The qualified name of a class. -/
def qualifiedName (world : World κ) : ClassId → String
  | .builtin kind => kind.name
  | .defined index => ((world.classes[index]?).map (·.qualifiedName)).getD ""

/-- The name of the module whose classes are defined here. -/
def moduleName : String := "m"

/-- The name of the module that a class belongs to. -/
def homeName : ClassId → String
  | .builtin kind => kind.home
  | .defined _ => moduleName

/-- The built-in class whose layout the instances of a class have. -/
def layout (world : World κ) (identity : ClassId) : BuiltinClass :=
  let layouts := (world.ancestors identity).filterMap fun
    | .builtin kind => if kind.layout == .object then none else some kind.layout
    | .defined _ => none
  layouts.head?.getD .object

/-- The class of a class. -/
def metaclass (world : World κ) (identity : ClassId) : BuiltinClass :=
  if world.isSubclass identity (.builtin .any) then .anyType else .type

/-- The class of a value. -/
def classOf (world : World κ) : Value → ClassId
  | .none => .builtin .noneType
  | .ellipsis => .builtin .ellipsisType
  | .undecided => .builtin .undecidedType
  | .truth _ => .builtin .truth
  | .integer _ => .builtin .integer
  | .real _ => .builtin .real
  | .text _ => .builtin .text
  | .bytes _ => .builtin .bytes
  | .tuple _ => .builtin .tuple
  | .object ref => ((world.objects[ref]?).map (·.classId)).getD (.builtin .object)
  | .ofClass identity => .builtin (world.metaclass identity)
  | .primitive _ => .builtin .primitiveFunction
  | .method _ (.primitive _) => .builtin .primitiveFunction
  | .method _ _ => .builtin .method
  | .classMethod _ => .builtin .classMethod
  | .staticMethod _ => .builtin .staticMethod
  | .library _ => .builtin .module
  | .installer _ | .recordMaker _ => .builtin .function
  | .specialForm _ => .builtin .specialForm
  | .collectionForm _ => .builtin .collectionForm
  | .subscribed _ _ => .builtin .subscribed
  | .parameterized _ _ _ => .builtin .parameterized
  | .union _ => .builtin .unionForm
  | .alternatives _ => .builtin .alternatives
  | .annotated _ _ => .builtin .annotatedForm
  | .literal _ => .builtin .literalForm
  | .typeVariable _ _ => .builtin .typeVariable
  | .forwardReference _ => .builtin .forwardReference
  | .initializer _ => .builtin .initializer
  | .keywordMark => .builtin .keywordMark

/-- Whether a value is a function that a module defined. -/
def isFunction (world : World κ) : Value → Bool
  | .object ref =>
    match world.objects[ref]? with
    | some ⟨_, .function _, _⟩ => true
    | _ => false
  | _ => false

/-- An attribute of a class as it comes when the class is asked for it. -/
def boundToClass (identity : ClassId) : Value → Value
  | .classMethod function => .method identity function
  | .staticMethod function => function
  | other => other

/-- An attribute of a class as it comes when an instance is asked for it. -/
def boundToInstance (world : World κ) (receiver : Value) (found : Value) : Value :=
  match found with
  | .classMethod function => .method (world.classOf receiver) function
  | .staticMethod function => function
  | .primitive operation => if operation.binds then .method receiver found else found
  | .installer _ | .recordMaker _ => .method receiver found
  | other => if world.isFunction other then .method receiver other else other

/-- What is known of a class besides its attributes. -/
def classProperty? (world : World κ) (identity : ClassId) : String → Option Value
  | "__name__" => some (.text (world.className identity))
  | "__qualname__" => some (.text (world.qualifiedName identity))
  | "__module__" => some (.text (homeName identity))
  | "__class__" => some (.builtin (world.metaclass identity))
  | "__mro__" => some (.tuple ((world.ancestors identity).map .ofClass))
  | "__bases__" =>
    match world.record? identity with
    | some record => some (.tuple (record.bases.map .ofClass))
    | none => some (.tuple (((world.ancestors identity).drop 1).take 1 |>.map .ofClass))
  | _ => none

/-- What is known of a class from the nearest ancestor that has it. -/
def inheritedProperty? (world : World κ) (identity : ClassId) (name : String) : Option Value :=
  let records := (world.ancestors identity).filterMap world.record?
  match name with
  | "__orig_bases__" => records.findSome? fun record => record.writtenBases.map .tuple
  | "__parameters__" =>
    if world.isSubclass identity (.builtin .generic) then
      some (.tuple ((records.head?.map (·.parameters)).getD []))
    else none
  | "__doc__" => some .none
  | _ => none

/-- The attribute of a class, as the class is asked for it. -/
def attributeOfClass? (world : World κ) (identity : ClassId) (name : String) : Option Value :=
  (world.classProperty? identity name).orElse fun _ =>
    ((world.classAttribute? identity name).map (boundToClass identity)).orElse fun _ =>
      (world.inheritedProperty? identity name).orElse fun _ =>
        (world.classAttribute? (.builtin (world.metaclass identity)) name).map
          (world.boundToInstance (.ofClass identity))

/-- The attribute of a value that it has because of its class. -/
def attributeByClass? (world : World κ) (value : Value) (name : String) : Option Value :=
  let identity := world.classOf value
  match name with
  | "__class__" => some (.ofClass identity)
  | "__module__" => some (.text (homeName identity))
  | _ =>
    ((world.classAttribute? identity name).map (world.boundToInstance value)).orElse fun _ =>
      world.inheritedProperty? identity name

/-- What a type expression knows of itself. -/
def propertyOfForm? : Value → String → Option Value
  | .subscribed origin _, "__origin__" => some (.ofClass origin)
  | .subscribed _ arguments, "__args__" => some (.tuple arguments)
  | .parameterized origin _ _, "__origin__" => some origin
  | .parameterized _ _ arguments, "__args__" => some (.tuple arguments)
  | .union _, "__origin__" => some (.specialForm "Union")
  | .union arguments, "__args__" => some (.tuple arguments)
  | .alternatives arguments, "__args__" => some (.tuple arguments)
  | .annotated origin _, "__origin__" => some origin
  | .annotated origin _, "__args__" => some (.tuple [origin])
  | .annotated _ metadata, "__metadata__" => some (.tuple metadata)
  | .annotated _ _, "__name__" => some (.text "Annotated")
  | .annotated _ _, "__qualname__" => some (.text "Annotated")
  | .literal _, "__origin__" => some (.specialForm "Literal")
  | .literal arguments, "__args__" => some (.tuple arguments)
  | .specialForm name, "__name__" => some (.text name)
  | .specialForm name, "__qualname__" => some (.text name)
  | .collectionForm name, "__name__" => some (.text name)
  | .collectionForm name, "__qualname__" => some (.text name)
  | .parameterized _ (some name) _, "__name__" => some (.text name)
  | .parameterized _ (some name) _, "__qualname__" => some (.text name)
  | .typeVariable _ name, "__name__" => some (.text name)
  | .initializer type, "type" => some type
  | _, _ => none

end World

end DifferenceTypes
