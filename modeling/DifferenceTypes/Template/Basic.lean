import DifferenceTypes.Syntax.Parser.Statement
import DifferenceTypes.Template.Block
import DifferenceTypes.Template.Definition
import DifferenceTypes.Template.Scope

/-!
# Templates

A template is the text of a module some of whose classes are marked. `Template.read` gives its
statements and one block for each marked class, or the reason why there is none: the first fault in
the order of the classes, and for each class what its markers ask for before its shape, its fields,
the lines of its markers and the names to be generated.
-/

namespace DifferenceTypes

/-- A template that was read: its text, its statements and its blocks. -/
structure Template where
  text : Text
  module : Module
  blocks : List Block
  deriving Inhabited

/-- The statements of a text. -/
def Module.ofText (text : Text) : Except TemplateError Module :=
  match text.characters? with
  | none => .error .unencodable
  | some characters =>
    if characters.elem '\x00' then .error .nullCharacter
    else
      match text.asSource.characters?.bind Module.parse? with
      | some module => .ok module
      | none => .error .invalidSyntax

namespace Block

/-- Refuses a block that would bind a name that is taken, by the module or by an earlier block. -/
def checkNames (taken : List Text) (block : Block) (span : Span) : Except TemplateError Unit :=
  block.generatedNames.forM fun name =>
    if taken.elem name then .error (.ofFault (.collision name block.name) span) else .ok ()

/-- The blocks of marked classes, given the names that are taken. -/
def ofClasses (text : Text) (display : List Text) :
    List Text → List ClassDefinition → Except TemplateError (List Block)
  | _, [] => .ok []
  | taken, definition :: rest => do
    let block ← ofClass text display definition
    block.checkNames taken definition.span
    return block :: (← ofClasses text display (taken ++ block.generatedNames) rest)

end Block

/-- Reads a text as a template. -/
def Template.read (text : Text) : Except TemplateError Template := do
  let module ← Module.ofText text
  let classes ← module.markedClasses
  let taken := module.boundNames.map Text.ofString
  let blocks ← Block.ofClasses text text.displayLines taken classes
  return ⟨text, module, blocks⟩

end DifferenceTypes
