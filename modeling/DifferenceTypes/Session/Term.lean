import DifferenceTypes.Evaluation.Call

/-!
# Terms for types and values

How a step of a session names the types and values that it works on. A type may be named as a class
is, put together as type expressions are, or be any value at all. A value is written out, taken from
a variable, or made by a class: with its completion, or bare and then given attributes.

The parts of a term are evaluated in the order in which they are listed.
-/

namespace DifferenceTypes

mutual

/-- A term for a type. -/
inductive TypeTerm where
  | name (identifier : String)
  | subscript (origin : TypeTerm) (arguments : List TypeTerm)
  | annotated (type : TypeTerm) (metadata : ValueTerm)
  | optional (type : TypeTerm)
  | union (types : List TypeTerm)
  | either (first second : TypeTerm)
  /-- A name for type expressions. -/
  | form (identifier : String)
  | value (value : ValueTerm)

/-- A term for a value. -/
inductive ValueTerm where
  | none
  | truth (value : Bool)
  | integer (value : Int)
  /-- A floating-point number as it is spelled. -/
  | real (spelling : Text)
  | text (value : Text)
  | list (items : List ValueTerm)
  | bound (identifier : String)
  | type (type : TypeTerm)
  | made (type : TypeTerm) (arguments : List ValueTerm) (named : List NamedTerm)
  | bare (type : TypeTerm) (attributes : List NamedTerm)

/-- A term for a value under a name. -/
inductive NamedTerm where
  | named (identifier : String) (value : ValueTerm)

end

instance : Inhabited ValueTerm := ⟨.none⟩

instance : Inhabited TypeTerm := ⟨.value .none⟩

namespace Term

variable {κ : Type}

/-- The class or other value that a name stands for: what the module has under it, a built-in class,
the class of nothing or the one that positional classes are derived from. -/
def named (identifier : String) : Run κ Value := do
  match (← get).module.get? identifier with
  | some value => return value
  | none =>
    match Library.everywhere? identifier, identifier with
    | some value, _ => return value
    | none, "NoneType" => return .builtin .noneType
    | none, "Positional" => return .builtin .positional
    | none, _ => throw .missingKey

/-- The value of a variable. -/
def bound (bindings : Attributes) (identifier : String) : Run κ Value :=
  match bindings.get? identifier with
  | some value => return value
  | none => throw .missingKey

/-- The index that arguments in brackets are: the only one, or all of them together. -/
def index : List Value → Value
  | [single] => single
  | several => .tuple several

mutual

/-- The value that a term for a type stands for. -/
def type (call : Caller κ) (bindings : Attributes) : TypeTerm → Run κ Value
  | .name identifier => named identifier
  | .subscript origin arguments => do
    let subscripted ← type call bindings origin
    let given ← types call bindings arguments
    Operator.subscript call subscripted (index given)
  | .annotated described metadata => do
    let origin ← type call bindings described
    let note ← value call bindings metadata
    TypeForm.annotated [origin, note]
  | .optional described => do TypeForm.optional call (← type call bindings described)
  | .union members => do TypeForm.union call (← types call bindings members)
  | .either first second => do
    let left ← type call bindings first
    let right ← type call bindings second
    Operator.apply call .bitOr left right
  | .form identifier =>
    match Library.attribute? .typing identifier with
    | some found => return found
    | none => throw .missingAttribute
  | .value term => value call bindings term

/-- The values that terms for types stand for. -/
def types (call : Caller κ) (bindings : Attributes) : List TypeTerm → Run κ (List Value)
  | [] => return []
  | first :: rest => do
    let found ← type call bindings first
    return found :: (← types call bindings rest)

/-- The value that a term stands for. -/
def value (call : Caller κ) (bindings : Attributes) : ValueTerm → Run κ Value
  | .none => return .none
  | .truth given => return .truth given
  | .integer given => return .integer given
  | .real spelling =>
    match Conversion.realOfText? spelling with
    | some number => return .real number
    | none => throw .badValue
  | .text given => return .text given
  | .list items => do Run.createList (← values call bindings items)
  | .bound identifier => bound bindings identifier
  | .type described => type call bindings described
  | .made described arguments named => do
    let maker ← type call bindings described
    let positional ← values call bindings arguments
    let keywords ← namedValues call bindings [] named
    call maker ⟨positional, keywords⟩
  | .bare described attributes => do
    let maker ← type call bindings described
    let made ← call (← Access.get maker "__new__") ⟨[maker], []⟩
    setAll call bindings made attributes
    return made

/-- The values that terms stand for. -/
def values (call : Caller κ) (bindings : Attributes) : List ValueTerm → Run κ (List Value)
  | [] => return []
  | first :: rest => do
    let found ← value call bindings first
    return found :: (← values call bindings rest)

/-- The values that terms under names stand for, with those found before them. The last value of a
name counts. -/
def namedValues (call : Caller κ) (bindings found : Attributes) : List NamedTerm → Run κ Attributes
  | [] => return found
  | .named identifier term :: rest => do
    let given ← value call bindings term
    namedValues call bindings (found.set identifier given) rest

/-- Sets attributes one after the other. -/
def setAll (call : Caller κ) (bindings : Attributes) (target : Value) : List NamedTerm → Run κ Unit
  | [] => return ()
  | .named identifier term :: rest => do
    let found ← value call bindings term
    Access.set call target identifier found
    setAll call bindings target rest

end

end Term

end DifferenceTypes
