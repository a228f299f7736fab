import DifferenceTypes.Template.Field

/-!
# Blocks

A block is what the generator knows about a marked class: its name and shape, its fields, what its
markers ask for, the lines of these markers and the last line of the class. From it follow the names
of what is generated: the difference class, except for a unit class, and the class that implements
the contract.
-/

namespace DifferenceTypes

/-- What the generator knows about a marked class. -/
structure Block where
  name : Text
  shape : Shape
  stop : Int
  options : Options
  fields : List Field
  markerLines : List (Int × Int)
  deriving DecidableEq, Repr, Inhabited

namespace Block

/-- The name of the difference class: the one asked for, or that of the class with `Diff` behind it.
An empty name is none. -/
def differenceName (block : Block) : Text :=
  match block.options.override with
  | some name => if name.isEmpty then block.name ++ "Diff" else name
  | none => block.name ++ "Diff"

/-- The name of the class that implements the contract. -/
def implementationName (block : Block) : Text :=
  "_" ++ block.differenceName ++ "Impl"

/-- The names that the generated code binds. -/
def generatedNames (block : Block) : List Text :=
  match block.shape with
  | .unit => [block.implementationName]
  | _ => [block.differenceName, block.implementationName]

/-- The block of a marked class. -/
def ofClass (text : Text) (display : List Text) (definition : ClassDefinition) :
    Except TemplateError Block := do
  let markers := definition.decorators.filter Expr.isMarker
  let options ← Marker.options text markers
  let shape ← definition.shape
  let fields ← Field.ofClass text definition shape
  let markerLines ← markers.mapM fun marker => Marker.lines display (.ofSpan marker.span)
  return ⟨definition.identifier, shape, definition.span.stop.line, options, fields, markerLines⟩

end Block

end DifferenceTypes
