import DifferenceTypes.Object.Comparison
import DifferenceTypes.Syntax.Parser.Statement
import DifferenceTypes.Text.Lines

/-!
# Type expressions

How type expressions are put together. An argument of a type expression may be any value: nothing
stands for its class, a text for the type that it will name later, and only what can never be a type
is refused.

A union takes the members of the unions among its arguments and drops repetitions; a union of one
type is that type. Metadata on a type that already has some is added behind it. Subscribing a type
expression with free type variables puts the arguments in their places.
-/

namespace DifferenceTypes.TypeForm

variable {κ : Type}

/-- Whether a text is an expression and can name a type later. -/
def checkReference (text : Text) : Run κ Unit := do
  let unified := Text.unifyLineEnds text
  match unified.characters? with
  | none => throw .unencodable
  | some characters =>
    if characters.elem '\x00' then throw .badValue
    else if (Expr.parse? characters).isNone then throw .invalidCode
    else return ()

/-- An argument of a type expression: nothing stands for its class, and a text for what it names
later. -/
def convert (value : Value) : Run κ Value := do
  match value with
  | .none => return .builtin .noneType
  | .text text =>
    checkReference text
    return .forwardReference text
  | other => return other

/-- Arguments of a type expression, in their order. -/
def convertAll : List Value → Run κ (List Value)
  | [] => return []
  | first :: rest => do
    let converted ← convert first
    return converted :: (← convertAll rest)

/-- The special forms that are types by themselves. -/
def standalone : List String :=
  ["LiteralString", "NoReturn", "Never", "Self", "TypeAlias"]

/-- An argument that can be a type. `special` admits the forms that only a declaration may have, and
`final` the one for what never changes. -/
def check (special final : Bool) (value : Value) : Run κ Value := do
  let converted ← convert value
  match converted with
  | .parameterized origin _ _ =>
    if origin.same (.builtin .generic) then throw .wrongType
    else if !special && origin.same (.specialForm "ClassVar") then throw .wrongType
    else if !special && !final && origin.same (.specialForm "Final") then throw .wrongType
    else return converted
  | .specialForm name =>
    if standalone.elem name then return converted
    else if special && (name == "ClassVar" || name == "Final") then return converted
    else throw .wrongType
  | .ofClass (.builtin .generic) => throw .wrongType
  | .tuple _ => throw .wrongType
  | _ => return converted

/-- Arguments that can be types, in their order. -/
def checkAll : List Value → Run κ (List Value)
  | [] => return []
  | first :: rest => do
    let checked ← check false false first
    return checked :: (← checkAll rest)

/-- The values without those that are equal to an earlier one. -/
def withoutRepetitions (call : Caller κ) (kept : List Value) : List Value → Run κ (List Value)
  | [] => return kept
  | first :: rest => do
    if ← Comparison.contains call first kept then withoutRepetitions call kept rest
    else withoutRepetitions call (kept ++ [first]) rest

/-- The members of the unions among some types, and the other types as they are. -/
def members : List Value → List Value :=
  List.flatMap fun
    | .union arguments | .alternatives arguments => arguments
    | other => [other]

/-- The union of types. -/
def union (call : Caller κ) (arguments : List Value) : Run κ Value := do
  if arguments.isEmpty then throw .wrongType
  let checked ← checkAll arguments
  match ← withoutRepetitions call [] (members checked) with
  | [single] => return single
  | several => return .union several

/-- A type or nothing. -/
def optional (call : Caller κ) (argument : Value) : Run κ Value := do
  let checked ← check false false argument
  union call [checked, .builtin .noneType]

/-- A type with metadata. -/
def annotated (arguments : List Value) : Run κ Value := do
  match arguments with
  | type :: first :: rest =>
    match ← check true false type with
    | .annotated origin metadata => return .annotated origin (metadata ++ first :: rest)
    | checked => return .annotated checked (first :: rest)
  | _ => throw .wrongType

/-- The literal of some values, those of literals among them included. -/
def literal (call : Caller κ) (arguments : List Value) : Run κ Value := do
  let values := arguments.flatMap fun
    | .literal inner => inner
    | other => [other]
  let world ← get
  let distinct ← withoutRepetitions call [] (Comparison.withClasses world values)
  return .literal (distinct.filterMap fun
    | .tuple (value :: _) => some value
    | _ => none)

/-- Whether a value can stand on a side of a bar together with a class. -/
def isUnionable : Value → Bool
  | .none | .ofClass _ | .subscribed _ _ | .alternatives _ => true
  | _ => false

/-- Whether a value makes a union with whatever stands on the other side of a bar. -/
def isForm : Value → Bool
  | .parameterized _ _ _ | .union _ | .annotated _ _ | .literal _ | .collectionForm _
  | .specialForm _ | .typeVariable _ _ | .forwardReference _ => true
  | _ => false

/-- Types without repetitions, nothing standing for its class. -/
def distinctAlternatives (types : List Value) : List Value :=
  (types.flatMap fun
    | .alternatives arguments => arguments
    | .none => [.builtin .noneType]
    | other =>
      [other]).foldl (fun kept type => if kept.any type.same then kept else kept ++ [type]) []

/-- Two types with a bar between them. -/
def bar (call : Caller κ) (first second : Value) : Run κ Value := do
  if isUnionable first && isUnionable second && !(first.same .none && second.same .none) then
    match distinctAlternatives [first, second] with
    | [single] => return single
    | several => return .alternatives several
  else if isForm first || isForm second then union call [first, second]
  else throw .wrongType

/-! ### Collections -/

/-- The collection types that stand for a class: their names, the class, and how many arguments they
take. -/
def collections : List (String × BuiltinClass × Option Nat) :=
  ([("List", .list, some 1), ("Dict", .dictionary, some 2), ("Set", .set, some 1),
    ("FrozenSet", .frozenSet, some 1), ("Tuple", .tuple, none), ("Type", .type, some 1)] :
      List (String × BuiltinClass × Option Nat)) ++
  ([("Hashable", 0), ("Sized", 0), ("Awaitable", 1), ("Coroutine", 3), ("AsyncIterable", 1),
    ("AsyncIterator", 1),
    ("Iterable", 1), ("Iterator", 1), ("Reversible", 1), ("Container", 1), ("Collection", 1),
      ("MutableSet", 1),
    ("Mapping", 2), ("MutableMapping", 2), ("Sequence", 1), ("MutableSequence", 1),
      ("MappingView", 1),
    ("KeysView", 1), ("ItemsView", 2), ("ValuesView", 1), ("Generator", 3), ("AsyncGenerator", 2),
    ("Callable", 2)].map fun (name, count) => (name, .collection name, some count)) ++
  ([("AbstractSet", .collection "Set", some 1)] : List (String × BuiltinClass × Option Nat))

/-- The class that a collection type stands for. -/
def collectionClass (name : String) : BuiltinClass :=
  match collections.lookup name with
  | some (kind, _) => kind
  | none => .object

/-- A collection type with arguments. -/
def collection (name : String) (arguments : List Value) : Run κ Value := do
  let origin : Value := .builtin (collectionClass name)
  match (collections.lookup name).bind (·.2) with
  | none =>
    match arguments.reverse with
    | .ellipsis :: rest =>
      if rest.isEmpty then return .parameterized origin (some name) (← checkAll arguments)
      else return .parameterized origin (some name) ((← checkAll rest.reverse) ++ [.ellipsis])
    | _ => return .parameterized origin (some name) (← checkAll arguments)
  | some count =>
    let checked ← checkAll arguments
    if count == 0 || checked.length != count then throw .wrongType
    return .parameterized origin (some name) checked

/-- A function type, from the types of what it takes and of what it gives. -/
def callable (arguments : List Value) : Run κ Value := do
  match arguments with
  | [taken, given] =>
    let result ← check false false given
    let origin : Value := .builtin (.collection "Callable")
    match taken with
    | .ellipsis => return .parameterized origin (some "Callable") [.ellipsis, result]
    | other =>
      match ← Run.view other with
      | .list items | .tuple items =>
        return .parameterized origin (some "Callable") ((← convertAll items) ++ [result])
      | _ => return .parameterized origin (some "Callable") [← convert other, result]
  | _ => throw .wrongType

/-! ### Type variables -/

/-- The values without those that were the same as an earlier one. -/
def distinct (values : List Value) : List Value :=
  values.foldl (fun kept value => if kept.any value.same then kept else kept ++ [value]) []

mutual

/-- The type variables of a type expression, in the order in which they first occur. -/
def typeVariables : Value → List Value
  | .typeVariable identity name => [.typeVariable identity name]
  | .subscribed _ arguments | .parameterized _ _ arguments | .union arguments
  | .alternatives arguments => typeVariablesOfAll arguments
  | .annotated origin _ => typeVariables origin
  | _ => []

/-- The type variables of type expressions. -/
def typeVariablesOfAll : List Value → List Value
  | [] => []
  | first :: rest => distinct (typeVariables first ++ typeVariablesOfAll rest)

end

mutual

/-- A type expression with values in the place of type variables. -/
def replace (replacements : List (Value × Value)) : Value → Value
  | .typeVariable identity name =>
    (replacements.lookup (.typeVariable identity name)).getD (.typeVariable identity name)
  | .subscribed origin arguments => .subscribed origin (replaceAll replacements arguments)
  | .parameterized origin name arguments =>
    .parameterized origin name (replaceAll replacements arguments)
  | .union arguments => .union (replaceAll replacements arguments)
  | .alternatives arguments => .alternatives (replaceAll replacements arguments)
  | .annotated origin metadata => .annotated (replace replacements origin) metadata
  | other => other

/-- Type expressions with values in the place of type variables. -/
def replaceAll (replacements : List (Value × Value)) : List Value → List Value
  | [] => []
  | first :: rest => replace replacements first :: replaceAll replacements rest

end

/-- A type expression built anew, so that unions inside it are unions of distinct types again. -/
def rebuild (call : Caller κ) : Value → Run κ Value
  | .union arguments => union call arguments
  | .alternatives arguments => do
    match arguments with
    | [] => throw .wrongType
    | first :: rest => rest.foldlM (bar call) first
  | other => return other

/-- A type expression with arguments for its type variables. -/
def substitute (call : Caller κ) (form : Value) (arguments : List Value) : Run κ Value := do
  let free := typeVariables form
  let converted ← convertAll arguments
  if free.isEmpty || free.length != converted.length then throw .wrongType
  rebuild call (replace (free.zip converted) form)

/-- A generic class with arguments. -/
def generic (identity : ClassId) (arguments : List Value) : Run κ Value := do
  let converted ← convertAll arguments
  if identity == .builtin .generic then
    let isVariable : Value → Bool
      | .typeVariable _ _ => true
      | _ => false
    if converted.isEmpty || !converted.all isVariable ||
      (distinct converted).length != converted.length then
      throw .wrongType
  else
    let world ← get
    let count := ((world.record? identity).map (·.parameters.length)).getD 0
    if count == 0 || count != converted.length then throw .wrongType
  return .parameterized identity none converted

/-- The values in brackets: those of a tuple, or a single one. -/
def subscripts : Value → List Value
  | .tuple items => items
  | other => [other]

/-- A class with a subscript. The nearest ancestor that has a meaning for it decides. -/
def subscribeClass (call : Caller κ) (identity : ClassId) (index : Value) : Run κ Value := do
  if identity == .builtin .type then return .subscribed identity (subscripts index)
  let world ← get
  let meaning := (world.ancestors identity).findSome? fun
    | .builtin .list | .builtin .dictionary | .builtin .tuple | .builtin .set | .builtin .frozenSet
    | .builtin (.collection _) => some (pure (.subscribed identity (subscripts index)))
    | .builtin .generic => some (generic identity (subscripts index))
    | .builtin .annotated => some (annotated (subscripts index))
    | .builtin .initializer => some (pure (.initializer index))
    | .builtin .representation => some (call (.primitive .representation) ⟨[index], []⟩)
    | _ => none
  match meaning with
  | some result => result
  | none => throw .wrongType

/-- A special form with a subscript. -/
def subscribeSpecial (call : Caller κ) (name : String) (index : Value) : Run κ Value := do
  match name with
  | "Optional" => optional call index
  | "Union" => union call (subscripts index)
  | "Literal" => literal call (subscripts index)
  | "ClassVar" | "Final" | "TypeGuard" | "Required" | "NotRequired" =>
    return .parameterized (.specialForm name) none [← check false false index]
  | _ => throw .wrongType

/-- A type expression with a subscript, if it is one. -/
def subscribe? (call : Caller κ) (value : Value) (index : Value) : Option (Run κ Value) :=
  match value with
  | .ofClass identity => some (subscribeClass call identity index)
  | .specialForm name => some (subscribeSpecial call name index)
  | .collectionForm "Callable" => some (callable (subscripts index))
  | .collectionForm name => some (collection name (subscripts index))
  | .parameterized origin _ _ =>
    if origin.same (.builtin .generic) then some (throw .wrongType)
    else some (substitute call value (subscripts index))
  | .subscribed _ _ | .union _ | .alternatives _ | .annotated _ _ =>
    some (substitute call value (subscripts index))
  | .literal _ | .typeVariable _ _ | .forwardReference _ | .initializer _ | .keywordMark =>
    some (throw .wrongType)
  | _ => none

/-! ### What a type expression stands for -/

/-- The type that a type expression subscribes or modifies, if it does. -/
def origin? : Value → Option Value
  | .annotated _ _ => some (.builtin .annotated)
  | .subscribed origin _ => some (.ofClass origin)
  | .parameterized origin _ _ => some origin
  | .union _ => some (.specialForm "Union")
  | .literal _ => some (.specialForm "Literal")
  | .collectionForm name => some (.builtin (collectionClass name))
  | .alternatives _ => some (.builtin .alternatives)
  | .ofClass (.builtin .generic) => some (.builtin .generic)
  | _ => none

/-- The arguments of a type expression. -/
def arguments : Value → List Value
  | .annotated origin metadata => origin :: metadata
  | .subscribed _ arguments | .parameterized _ _ arguments | .union arguments | .literal arguments
  | .alternatives arguments => arguments
  | _ => []

/-- The type without its metadata. -/
def withoutMetadata : Value → Value
  | .annotated origin _ => origin
  | other => other

end DifferenceTypes.TypeForm
