import DifferenceTypes.Evaluation.Call

/-!
# Declared types

The types that a class and its ancestors declare, the farthest ancestor first, with everything
resolved that is kept as text: a declared type, and the texts inside of type expressions. Metadata
is left out.

A text is resolved where it was written: a name is looked for in the module first and in the class
behind it. A text that leads back to itself is left as it stands.
-/

namespace DifferenceTypes.TypeHint

variable {κ : Type}

/-- The frame in which the texts of a class are resolved. -/
def frame (place : Place) (attributes : Attributes) : Frame :=
  { place := place, bindings := attributes, annotations := [], owner := none, qualifier := "",
    postponed := false, shared := [] }

/-- The value of a text as an expression. -/
def valueOf (call : Caller κ) (frame : Frame) (text : Text) : Run κ Value := do
  match (Text.unifyLineEnds text).characters?.bind Expr.parse? with
  | some expression => (Evaluation.eval call expression.content).run' frame
  | none => throw .invalidCode

/-- A text inside of a subscripted class as what it names. -/
def asReference (value : Value) : Run κ Value := do
  match value with
  | .text _ => TypeForm.convert value
  | other => return other

mutual

/-- A type with all texts inside of it resolved, except for those that are being resolved already.
`special` admits the forms that only a declaration may have. -/
def resolve (call : Caller κ) (frame : Frame) (special : Bool) :
    Nat → List Text → Value → Run κ Value
  | 0, _, _ => throw .tooDeep
  | depth + 1, resolving, type => do
    match type with
    | .forwardReference text =>
      if resolving.elem text then return type
      let found ← valueOf call frame text
      let checked ← TypeForm.check special special found
      resolve call frame false depth (text :: resolving) checked
    | .subscribed origin arguments =>
      let references ← arguments.mapM asReference
      return .subscribed origin (← resolveAll call frame depth resolving references)
    | .parameterized origin name arguments =>
      return .parameterized origin name (← resolveAll call frame depth resolving arguments)
    | .union arguments =>
      TypeForm.rebuild call (.union (← resolveAll call frame depth resolving arguments))
    | .alternatives arguments =>
      TypeForm.rebuild call (.alternatives (← resolveAll call frame depth resolving arguments))
    | .annotated origin metadata =>
      match ← resolveAll call frame depth resolving [origin] with
      | [resolved] => return .annotated resolved metadata
      | _ => throw .unsupported
    | other => return other

/-- Types with all texts inside of them resolved. -/
def resolveAll (call : Caller κ) (frame : Frame) : Nat → List Text → List Value → Run κ (List Value)
  | 0, _, _ => throw .tooDeep
  | _ + 1, _, [] => return []
  | depth + 1, resolving, first :: rest => do
    let resolved ← resolve call frame false depth resolving first
    return resolved :: (← resolveAll call frame (depth + 1) resolving rest)

end

mutual

/-- A type without the metadata inside of it. -/
def withoutMetadata (call : Caller κ) : Value → Run κ Value
  | .annotated origin _ => withoutMetadata call origin
  | .subscribed origin arguments => return .subscribed origin (← withoutMetadataAll call arguments)
  | .parameterized (.specialForm "Required") _ [type]
  | .parameterized (.specialForm "NotRequired") _ [type] => withoutMetadata call type
  | .parameterized origin name arguments =>
    return .parameterized origin name (← withoutMetadataAll call arguments)
  | .union arguments => do TypeForm.rebuild call (.union (← withoutMetadataAll call arguments))
  | .alternatives arguments => do
    TypeForm.rebuild call (.alternatives (← withoutMetadataAll call arguments))
  | other => return other

/-- Types without the metadata inside of them. -/
def withoutMetadataAll (call : Caller κ) : List Value → Run κ (List Value)
  | [] => return []
  | first :: rest => do
    let type ← withoutMetadata call first
    return type :: (← withoutMetadataAll call rest)

end

/-- A declared type, resolved: nothing stands for its class, and a text for what it names. -/
def declared (call : Caller κ) (frame : Frame) (special : Bool) (type : Value) : Run κ Value := do
  let converted ← match type with
    | .none => pure (Value.builtin .noneType)
    | .text _ => TypeForm.convert type
    | other => pure other
  resolve call frame special Evaluation.depthLimit [] converted

/-- Types with others set under their names. -/
def setAll (call : Caller κ) (frame : Frame) (special : Bool) (found : Attributes) :
    Attributes → Run κ Attributes
  | [] => return found
  | (name, type) :: rest => do
    let resolved ← declared call frame special type
    setAll call frame special (found.set name resolved) rest

/-- The types that a class declares itself. A positional class declares that its number of fields
may be missing. -/
def ofClass (call : Caller κ) (found : Attributes) (identity : ClassId) : Run κ Attributes := do
  match identity with
  | .builtin .positional =>
    return found.set "__arity__" (.union [.builtin .integer, .builtin .noneType])
  | .builtin _ => return found
  | .defined index =>
    let record ← Run.classRecord index
    setAll call (frame .reference record.attributes) true found record.annotations

/-- The types that a value declares which is no class: those of the class that it belongs to or
subscribes, as far as they can be resolved without its module. -/
def ofOther (call : Caller κ) (value : Value) : Run κ Attributes := do
  let world ← get
  let declaring := match value with
    | .subscribed origin _ => [origin]
    | .object _ => world.ancestors (world.classOf value)
    | _ => []
  let nearest? := declaring.find? fun identity =>
    match world.record? identity with
    | some record => !record.annotations.isEmpty
    | none => identity == .builtin .positional
  match nearest?, value with
  | some (.defined index), _ =>
    setAll call (frame .detached []) false [] (← Run.classRecord index).annotations
  | some (.builtin _), _ => throw .unknownName
  | none, .subscribed (.defined _) _ => return []
  | none, _ => throw .wrongType

/-- The names for which types are declared, with their types. -/
def all (call : Caller κ) (value : Value) : Run κ Attributes := do
  let resolved ← match value with
    | .ofClass identity =>
      let world ← get
      (world.ancestors identity).reverse.foldlM (ofClass call) []
    | other => ofOther call other
  resolved.mapM fun (name, type) => return (name, ← withoutMetadata call type)

end DifferenceTypes.TypeHint
