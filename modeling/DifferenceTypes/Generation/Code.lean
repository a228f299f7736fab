import DifferenceTypes.Template.Block
import DifferenceTypes.Text.Quoted

/-!
# Generated code

For a block the generator writes a difference class, unless the class is a unit, and a class that
implements the contract: `diff` compares two values, `apply` brings a difference into a value,
`identity` makes a value to start from. Each of the three goes through the fields in order and hands
every field on to the runtime.

The code is a list of lines. Decorators that are passed on keep their own line ends inside one of
them, as they did between the parentheses of their directive; so they get parentheses of their own.
-/

namespace DifferenceTypes.Code

/-- Lines that are the same in all generated code. -/
def fixed (lines : List String) : List Text :=
  lines.map Text.ofString

/-- The declared type of a difference: a quoted text that names the representation of the field's
type. -/
def representation (field : Field) : Text :=
  Text.ofCharacters (Quoted.ofText ("_diff.Repr[" ++ field.typeText ++ "]"))

/-- The lines of decorators that are passed on. -/
def decorators (expressions : List Text) : List Text :=
  expressions.map fun expression =>
    if expression.elem (.scalar '\n') then "@(" ++ expression ++ ")" else "@" ++ expression

/-- The lines that return a call, each argument on a line of its own. -/
def returnedCall (callee : Text) (arguments : List Text) : List Text :=
  if arguments.isEmpty then ["        return " ++ callee ++ "()"]
  else
    ("        return " ++ callee ++ "(" : Text) ::
      (arguments.map fun argument => ("            " ++ argument ++ "," : Text)) ++
        fixed ["        )"]

/-- The lines that open the class that implements the contract. -/
def implementationHead (className implementation representation : Text) : List Text :=
  ["@_diff.implements(" ++ className ++ ")", "class " ++ implementation ++ ":", "    Repr = " ++
    representation, ""]

/-- The head of the method that compares two values. -/
def diffHead : Text :=
  "    def diff(self, other):"

/-- The head of the method that brings a difference into a value. -/
def applyHead : Text :=
  "    def apply(self, delta):"

/-- The head of the method that makes a value to start from. -/
def identityHead : List Text :=
  fixed ["    @classmethod", "    def identity(cls):"]

/-- An integer in base ten. -/
def decimal (number : Int) : Text :=
  Text.ofString (toString number)

/-! ### Named classes -/

/-- The argument that compares a named field. -/
def comparedByName (field : Field) : Text :=
  field.name ++ "=_diff.diff(self." ++ field.name ++ ", other." ++ field.name ++ ")"

/-- The line that updates a named field. -/
def updatedByName (field : Field) : Text :=
  "        self." ++ field.name ++
    " = _diff.apply(self." ++ field.name ++ ", delta." ++ field.name ++ ")"

/-- The line that gives a named field its first value. -/
def startedByName (field : Field) : Text :=
  "        value." ++ field.name ++ " = _diff.identity(" ++ field.typeText ++ ")"

/-- The difference class of a named class. -/
def namedDifference (block : Block) : List Text :=
  decorators block.options.decorators ++
    fixed ["@dataclasses.dataclass"] ++ [("class " ++ block.differenceName ++ ":" : Text)] ++
    block.fields.map fun field => ("    " ++ field.name ++ ": " ++ representation field : Text)

/-- The contract of a named class. -/
def namedImplementation (block : Block) : List Text :=
  implementationHead block.name block.implementationName block.differenceName ++
    [diffHead] ++ returnedCall block.differenceName (block.fields.map comparedByName) ++
    fixed [""] ++ [applyHead] ++ block.fields.map updatedByName ++
    fixed ["        return self", ""] ++ identityHead ++
    fixed ["        value = cls.__new__(cls)"] ++ block.fields.map startedByName ++
    fixed ["        return value"]

/-! ### Positional classes -/

/-- The argument that compares a positional field. -/
def comparedByIndex (field : Field) : Text :=
  "_diff.diff(self[" ++ decimal field.index ++ "], other[" ++ decimal field.index ++ "])"

/-- The line that updates a positional field. -/
def updatedByIndex (field : Field) : Text :=
  "        self[" ++ decimal field.index ++ "] = _diff.apply(self[" ++ decimal field.index ++
    "], delta[" ++ decimal field.index ++ "])"

/-- The argument that gives a positional field its first value. -/
def startedByIndex (field : Field) : Text :=
  "_diff.identity(" ++ field.typeText ++ ")"

/-- The subscript of a positional difference class: its field types, or the empty tuple. -/
def positionalTypes (fields : List Field) : Text :=
  if fields.isEmpty then "()" else Text.join ", " (fields.map representation)

/-- The difference class of a positional class. -/
def positionalDifference (block : Block) : List Text :=
  decorators block.options.decorators ++
    [("class " ++ block.differenceName ++ "(_diff.Positional[" ++ positionalTypes block.fields ++
      "]):" : Text)] ++
    fixed ["    pass"]

/-- The contract of a positional class. -/
def positionalImplementation (block : Block) : List Text :=
  implementationHead block.name block.implementationName block.differenceName ++
    [diffHead] ++ returnedCall block.differenceName (block.fields.map comparedByIndex) ++
    fixed [""] ++ [applyHead] ++ block.fields.map updatedByIndex ++
    fixed ["        return self", ""] ++ identityHead ++
    returnedCall "cls" (block.fields.map startedByIndex)

/-! ### Unit classes -/

/-- The contract of a unit class, whose difference is nothing. -/
def unitImplementation (block : Block) : List Text :=
  implementationHead block.name block.implementationName "type(None)" ++
    [diffHead] ++ fixed ["        return None", ""] ++ [applyHead] ++
      fixed ["        return self", ""] ++
    identityHead ++ fixed ["        return cls()"]

/-- The lines generated for a block. -/
def ofBlock (block : Block) : List Text :=
  match block.shape with
  | .named => namedDifference block ++ fixed ["", ""] ++ namedImplementation block
  | .positional => positionalDifference block ++ fixed ["", ""] ++ positionalImplementation block
  | .unit => unitImplementation block

/-- The text generated for a block, without a line end behind the last line. -/
def render (block : Block) : Text :=
  Text.join "\n" (ofBlock block)

/-- The text generated for a class whose shape is given by its word, at which the class ends at a
line. -/
def describe (shape : Text) (block : Block) : Except TemplateError (List Text × Text) :=
  match Shape.ofWord? shape with
  | some found =>
    let shaped := { block with shape := found }
    .ok (shaped.generatedNames, render shaped)
  | none => .error (.fault (.unknownShape shape block.name) block.stop 1)

end DifferenceTypes.Code
