import DifferenceTypes.Object.TypeForm

/-!
# Modules that can be imported

What a module finds in the modules that it imports: the contract's operations and the classes that
generated code builds on, record classes, and type expressions. Names that every module finds
without an import are given too.
-/

namespace DifferenceTypes.Library

/-- The special forms of type expressions. -/
def specialForms : List String :=
  ["Optional", "Union", "ClassVar", "Final", "Literal", "NoReturn", "Never", "Self",
    "LiteralString", "TypeAlias", "Concatenate", "TypeGuard", "Unpack", "Required", "NotRequired"]

/-- The names for type expressions. -/
def typeForm? (name : String) : Option Value :=
  if specialForms.elem name then some (.specialForm name)
  else if (TypeForm.collections.lookup name).isSome then some (.collectionForm name)
  else
    match name with
    | "Any" => some (.builtin .any)
    | "Annotated" => some (.builtin .annotated)
    | "Generic" => some (.builtin .generic)
    | "TypeVar" => some (.builtin .typeVariable)
    | "ForwardRef" => some (.builtin .forwardReference)
    | "Text" => some (.builtin .text)
    | "TYPE_CHECKING" => some (.truth false)
    | _ => none

/-- The names for record classes. -/
def recordForm? : String → Option Value
  | "dataclass" => some (.primitive .makeRecord)
  | "field" => some (.primitive .makeField)
  | "fields" => some (.primitive .recordFields)
  | "InitVar" => some (.builtin .initializer)
  | "Field" => some (.builtin .recordField)
  | "KW_ONLY" => some .keywordMark
  | "FrozenInstanceError" => some (.builtin (.exception "FrozenInstanceError"))
  | _ => none

/-- The names for the contract and what generated code builds on. -/
def contractForm? : String → Option Value
  | "diff" => some (.primitive .diff)
  | "apply" => some (.primitive .apply)
  | "identity" => some (.primitive .identity)
  | "repr_type" => some (.primitive .representation)
  | "implements" => some (.primitive .implements)
  | "Repr" => some (.builtin .representation)
  | "Positional" => some (.builtin .positional)
  | "DiffError" => some (.builtin (.exception "DiffError"))
  | _ => none

/-- The features of the future that a module can ask for. -/
def features : List String :=
  ["nested_scopes", "generators", "division", "absolute_import", "with_statement", "print_function",
    "unicode_literals", "barry_as_FLUFL", "generator_stop", "annotations"]

/-- The names that every module finds. -/
def everywhere? (name : String) : Option Value :=
  match BuiltinClass.ofName? name with
  | some kind => some (.builtin kind)
  | none =>
    match name with
    | "NotImplemented" => some .undecided
    | "Ellipsis" => some .ellipsis
    | "__debug__" => some (.truth true)
    | "repr" => some (.primitive .describe)
    | "hash" => some (.primitive .hash)
    | "len" => some (.primitive .length)
    | "getattr" => some (.primitive .getAttribute)
    | "setattr" => some (.primitive .setAttribute)
    | "hasattr" => some (.primitive .hasAttribute)
    | "isinstance" => some (.primitive .isInstance)
    | "issubclass" => some (.primitive .isSubclass)
    | _ => none

/-- The name of a library. -/
def path : Library → String
  | .builtins => "builtins"
  | .dataclasses => "dataclasses"
  | .future => "__future__"
  | .package => "diffgen"
  | .runtime => "diffgen.runtime"
  | .types => "types"
  | .typing => "typing"

/-- The library with a name. -/
def ofPath? (path : String) : Option Library :=
  [Library.builtins, .dataclasses, .future, .package, .runtime, .types, .typing].find?
    (·.path == path)

/-- What a library has under a name. -/
def attribute? (library : Library) (name : String) : Option Value :=
  if name == "__name__" then some (.text library.path)
  else
    match library with
    | .builtins => everywhere? name
    | .dataclasses => recordForm? name
    | .future => if features.elem name then some (.text name) else none
    | .package =>
      match name with
      | "runtime" => some (.library .runtime)
      | "__version__" => some (.text "0.1.0")
      | _ => contractForm? name
    | .runtime =>
      match name with
      | "is_generated" => some (.primitive .isGenerated)
      | "IMPL_ATTRIBUTE" => some (.text "__diff_impl__")
      | "CONTRACT" => some (.tuple [.text "Repr", .text "diff", .text "apply", .text "identity"])
      | "dataclasses" => some (.library .dataclasses)
      | "typing" => some (.library .typing)
      | "Any" | "Callable" | "Dict" | "Optional" => typeForm? name
      | _ => contractForm? name
    | .types =>
      match name with
      | "GenericAlias" => some (.builtin .subscribed)
      | "UnionType" => some (.builtin .alternatives)
      | "NoneType" => some (.builtin .noneType)
      | "FunctionType" => some (.builtin .function)
      | "MethodType" => some (.builtin .method)
      | "ModuleType" => some (.builtin .module)
      | _ => none
    | .typing => typeForm? name

end DifferenceTypes.Library
