import DifferenceTypes.Syntax.Printer.Expression
import DifferenceTypes.Template.Marker

/-!
# Shapes of classes

A class has one of three shapes. A positional class has the base `Positional`, whose subscript lists
its field types; a named class declares its fields in its body; a unit class has no fields. Fields
are found by spelling alone: bases and types are known by their last name, and a declaration counts
as a field unless its type is `ClassVar` or `InitVar`, quoted or not.

Whatever might bring in fields that the spelling does not show is refused: enumerations, and any
base besides `Positional`, `Generic` and `object`.
-/

namespace DifferenceTypes

/-- The shapes that a class can have. -/
inductive Shape where
  | named
  | positional
  | unit
  deriving DecidableEq, Repr, Inhabited

namespace Shape

/-- The word for a shape. -/
def word : Shape → String
  | .named => "named"
  | .positional => "unnamed"
  | .unit => "unit"

/-- The shape with a word. -/
def ofWord? (word : Text) : Option Shape :=
  [Shape.named, .positional, .unit].find? fun shape => Text.ofString shape.word == word

end Shape

/-- The last names of bases that make an enumeration. -/
def enumerationBases : List String :=
  ["Enum", "IntEnum", "StrEnum", "Flag", "IntFlag", "ReprEnum"]

/-- The last names of bases that have no fields. -/
def fieldlessBases : List String :=
  ["object", "Generic"]

/-- The last names of declared types that make no field. -/
def fieldlessTypes : List String :=
  ["ClassVar", "InitVar"]

/-- The base name that makes a class positional. -/
def positionalName : String := "Positional"

/-- What follows the last dot of a text. -/
def Text.afterLastDot (text : Text) : Text :=
  (text.reverse.takeWhile (· != .scalar '.')).reverse

/-- The last name of a quoted type: of what stands before its first bracket, blanks around it left
out. -/
def Text.quotedTail (text : Text) : Text :=
  Text.afterLastDot (Text.strip (text.takeWhile (· != .scalar '[')))

/-- Whether a declaration of this type makes no field. -/
def Expr.isFieldless {σ : Type} (type : Expr σ) : Bool :=
  match type.literalText? with
  | some text => fieldlessTypes.any fun name => Text.ofString name == text.quotedTail
  | none => fieldlessTypes.contains type.baseName

/-- A field that a statement of a class body declares: its name and its type, with the statement's
span. -/
structure Declaration where
  span : Span
  name : String
  type : Expr
  deriving Inhabited

/-- The field that a statement declares. -/
def Stmt.field? : Stmt → Option Declaration
  | .declare span (.name _ identifier) type _ _ =>
    if type.isFieldless then none else some ⟨span, identifier, type⟩
  | _ => none

namespace ClassDefinition

/-- The fields that the body declares. -/
def declarations (definition : ClassDefinition) : List Declaration :=
  definition.body.filterMap Stmt.field?

/-- The base that makes the class positional. -/
def positionalBase? (definition : ClassDefinition) : Option Expr :=
  definition.bases.find? (·.baseName == positionalName)

/-- Refuses a base that may bring in fields. -/
def checkBase (definition : ClassDefinition) (base : Expr) : Except TemplateError Unit := do
  if enumerationBases.contains base.baseName then
    throw (.ofFault (.enumeration definition.identifier) base.span)
  else if !fieldlessBases.contains base.baseName && base.baseName != positionalName then
    let printed ← base.print?.mapError TemplateError.unprintable
    throw (.ofFault (.inheritance definition.identifier printed) base.span)

/-- The shape of a class. -/
def shape (definition : ClassDefinition) : Except TemplateError Shape := do
  definition.bases.forM definition.checkBase
  match definition.positionalBase?, definition.declarations with
  | some (.subscript ..), [] => return .positional
  | some (.subscript ..), field :: _ =>
    throw (.ofFault (.mixedFields definition.identifier) field.span)
  | some base, _ => throw (.ofFault (.missingTypes definition.identifier) base.span)
  | none, [] => return .unit
  | none, _ :: _ => return .named

end ClassDefinition

end DifferenceTypes
