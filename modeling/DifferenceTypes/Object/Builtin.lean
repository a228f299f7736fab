/-!
# Built-in classes

The classes that exist before any module is loaded: those of plain values, those of type
expressions, and the two that generated code builds on, `positional` and `representation`.

Each built-in class has a name, a home module and one line of ancestors. Two of its properties limit
what may be derived from it: a closed class has no subclasses, and the layout of its instances must
be compatible with the layouts of the other bases.
-/

namespace DifferenceTypes

/-- The classes that exist from the start. -/
inductive BuiltinClass where
  | object
  | type
  | noneType
  | ellipsisType
  | undecidedType
  | truth
  | integer
  | real
  | text
  | bytes
  | list
  | tuple
  | dictionary
  | set
  | frozenSet
  | function
  | primitiveFunction
  | method
  | module
  | classMethod
  | staticMethod
  /-- The class of `list[int]` and other subscripted classes. -/
  | subscribed
  /-- The class of `int | str`. -/
  | alternatives
  /-- The class of `List[int]` and of subscripted generic classes. -/
  | parameterized
  /-- The class of `List` without a subscript. -/
  | collectionForm
  | unionForm
  | annotatedForm
  | literalForm
  | specialForm
  | typeVariable
  | forwardReference
  | anyType
  | any
  | generic
  | annotated
  | initializer
  | keywordMark
  | recordField
  /-- A class that only describes which operations a collection has. -/
  | collection (name : String)
  | exception (name : String)
  /-- A class whose instances nothing here makes. -/
  | inert (name : String)
  | positional
  | representation
  deriving DecidableEq, Repr, Inhabited

namespace BuiltinClass

/-- The name of the class. -/
def name : BuiltinClass → String
  | .object => "object"
  | .type => "type"
  | .noneType => "NoneType"
  | .ellipsisType => "ellipsis"
  | .undecidedType => "NotImplementedType"
  | .truth => "bool"
  | .integer => "int"
  | .real => "float"
  | .text => "str"
  | .bytes => "bytes"
  | .list => "list"
  | .tuple => "tuple"
  | .dictionary => "dict"
  | .set => "set"
  | .frozenSet => "frozenset"
  | .function => "function"
  | .primitiveFunction => "builtin_function_or_method"
  | .method => "method"
  | .module => "module"
  | .classMethod => "classmethod"
  | .staticMethod => "staticmethod"
  | .subscribed => "GenericAlias"
  | .alternatives => "UnionType"
  | .parameterized => "_GenericAlias"
  | .collectionForm => "_SpecialGenericAlias"
  | .unionForm => "_UnionGenericAlias"
  | .annotatedForm => "_AnnotatedAlias"
  | .literalForm => "_LiteralGenericAlias"
  | .specialForm => "_SpecialForm"
  | .typeVariable => "TypeVar"
  | .forwardReference => "ForwardRef"
  | .anyType => "_AnyMeta"
  | .any => "Any"
  | .generic => "Generic"
  | .annotated => "Annotated"
  | .initializer => "InitVar"
  | .keywordMark => "_KW_ONLY_TYPE"
  | .recordField => "Field"
  | .collection name => name
  | .exception name => name
  | .inert name => name
  | .positional => "Positional"
  | .representation => "Repr"

/-- The module that the class belongs to. -/
def home : BuiltinClass → String
  | .subscribed | .alternatives => "types"
  | .parameterized | .collectionForm | .unionForm | .annotatedForm | .literalForm | .specialForm
  | .typeVariable | .forwardReference | .anyType | .any | .generic | .annotated => "typing"
  | .initializer | .keywordMark | .recordField | .exception "FrozenInstanceError" => "dataclasses"
  | .collection _ => "collections.abc"
  | .positional | .representation | .exception "DiffError" => "diffgen.runtime"
  | _ => "builtins"

/-- The exceptions with the exception that each one is a kind of. -/
def exceptionParents : List (String × String) :=
  [("Exception", "BaseException"), ("ArithmeticError", "Exception"),
    ("AssertionError", "Exception"), ("AttributeError", "Exception"), ("ImportError", "Exception"),
    ("LookupError", "Exception"), ("NameError", "Exception"), ("OSError", "Exception"),
    ("RuntimeError", "Exception"), ("StopIteration", "Exception"), ("SyntaxError", "Exception"),
    ("TypeError", "Exception"), ("ValueError", "Exception"), ("OverflowError", "ArithmeticError"),
    ("ZeroDivisionError", "ArithmeticError"), ("ModuleNotFoundError", "ImportError"),
    ("IndexError", "LookupError"), ("KeyError", "LookupError"), ("UnboundLocalError", "NameError"),
    ("NotImplementedError", "RuntimeError"), ("RecursionError", "RuntimeError"),
    ("UnicodeError", "ValueError")]

/-- The exceptions that a template finds under their names. -/
def exceptionNames : List String :=
  "BaseException" :: exceptionParents.map (·.1)

/-- The exception that another one is a kind of. -/
def exceptionParent? : String → Option String
  | "FrozenInstanceError" => some "AttributeError"
  | "DiffError" => some "TypeError"
  | name => exceptionParents.lookup name

/-- The exceptions that one is a kind of, itself first, at most so many. -/
def exceptionLine : Nat → String → List BuiltinClass
  | 0, _ => []
  | count + 1, name =>
    .exception name ::
      (match exceptionParent? name with | some parent => exceptionLine count parent | none => [])

/-- The classes whose instances nothing here makes. -/
def inertNames : List String :=
  ["bytearray", "complex", "enumerate", "filter", "map", "memoryview", "property", "range",
    "reversed", "slice", "super", "zip"]

/-- The ancestors of a class in the order in which attributes are looked up: itself first, `object`
last. -/
def ancestors : BuiltinClass → List BuiltinClass
  | .object => [.object]
  | .truth => [.truth, .integer, .object]
  | .positional => [.positional, .list, .object]
  | .unionForm => [.unionForm, .parameterized, .object]
  | .annotatedForm => [.annotatedForm, .parameterized, .object]
  | .literalForm => [.literalForm, .parameterized, .object]
  | .anyType => [.anyType, .type, .object]
  | .exception name => exceptionLine 8 name ++ [.object]
  | other => [other, .object]

/-- The class whose layout the instances of a class have. -/
def layout : BuiltinClass → BuiltinClass
  | .truth => .integer
  | .positional => .list
  | .anyType => .type
  | .any | .generic | .annotated | .representation | .collection _ => .object
  | .exception _ => .exception "BaseException"
  | other => other

/-- Whether no class may be derived from this one. -/
def isClosed : BuiltinClass → Bool
  | .noneType | .ellipsisType | .undecidedType | .truth | .function | .primitiveFunction | .method
  | .alternatives | .parameterized | .collectionForm | .unionForm | .annotatedForm | .literalForm
  | .specialForm | .typeVariable | .forwardReference | .annotated => true
  | .inert name => ["memoryview", "range", "slice"].elem name
  | _ => false

/-- Whether attributes of the class may be set. -/
def isOpen : BuiltinClass → Bool
  | .positional | .representation | .any | .generic | .annotated | .initializer | .recordField
  | .exception "DiffError" | .exception "FrozenInstanceError" => true
  | _ => false

/-- The classes that every module finds under their names. -/
def named : List BuiltinClass :=
  ([.object, .type, .truth, .integer, .real, .text, .bytes, .list, .tuple, .dictionary, .set,
    .frozenSet, .classMethod,
    .staticMethod] : List BuiltinClass) ++ exceptionNames.map .exception ++ inertNames.map .inert

/-- The class that every module finds under a name. -/
def ofName? (name : String) : Option BuiltinClass :=
  named.find? (·.name == name)

end BuiltinClass

end DifferenceTypes
