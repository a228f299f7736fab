import DifferenceTypes.Syntax.Printer.Literal
import DifferenceTypes.Text.Utf8

/-!
# Faults of templates

A fault is something in a template that the generator does not accept. Each is a cause with the
names it is about, and belongs to one of three kinds; how it is put into words is said once, in
`Fault.message`.

Reading a template can also fail in ways that are no fault of one place in it: text that is not
valid syntax, a character that no source text may hold, or lines that do not fit together because
the two conventions of `DifferenceTypes.Text.Lines` differ on them.
-/

namespace DifferenceTypes

/-- Something in a template that is not accepted. -/
inductive Fault where
  /-- A keyword argument where a directive is expected. -/
  | keywordDirective
  /-- A marker that is called without a directive. -/
  | missingDirective
  /-- A marker with more than one directive. -/
  | severalDirectives (count : Nat)
  /-- A directive without parentheses. -/
  | bareDirective (name : Text)
  /-- Something else where a directive is expected. -/
  | notDirective
  /-- A keyword argument among the decorators to pass on. -/
  | keywordDecorator
  /-- A starred expression among the decorators to pass on. -/
  | starredDecorator
  /-- A name for the difference class that is not one identifier. -/
  | unclearName
  /-- A directive that is not known. -/
  | unknownDirective (name : Text)
  /-- An enumeration. -/
  | enumeration (className : Text)
  /-- A base class that may have fields. -/
  | inheritance (className base : Text)
  /-- A positional class without field types. -/
  | missingTypes (className : Text)
  /-- A positional class with a named field. -/
  | mixedFields (className : Text)
  /-- A field whose name depends on the class that it is used in. -/
  | privateField (name : Text)
  /-- A second field of the same name. -/
  | duplicateField (name className : Text)
  /-- A marker with something other than its sign before it on its line. -/
  | markerStart
  /-- A marker with something other than a comment behind it on its line. -/
  | markerEnd
  /-- A marker on a function. -/
  | markedFunction (name : Text)
  /-- A marker on a class that is not at the top of the module. -/
  | nestedClass (name : Text)
  /-- A name to be generated that is taken. -/
  | collision (name className : Text)
  /-- A shape that is not known. -/
  | unknownShape (shape className : Text)
  deriving DecidableEq, Repr

/-- The kinds of faults: of the template as such, of what its directives ask for, of the shape of a
class. -/
inductive FaultKind where
  | template
  | configuration
  | shape
  deriving DecidableEq, Repr

namespace Fault

/-- The kind that a fault belongs to. -/
def kind : Fault → FaultKind
  | .unknownDirective _ | .collision _ _ => .configuration
  | .enumeration _ | .inheritance _ _ | .unknownShape _ _ => .shape
  | _ => .template

/-- A fault in words. -/
def message : Fault → Text
  | .keywordDirective => "expected a directive inside diff(...), found a keyword argument"
  | .missingDirective => "expected a directive such as 'attr(...)' inside diff(...)"
  | .severalDirectives count =>
    "diff(...) takes a single directive, got " ++ (toString count : String)
  | .bareDirective name => "expected '(' after directive name '" ++ name ++ "'"
  | .notDirective => "expected a directive of the form 'name(...)'"
  | .keywordDecorator => "attr(...) expects decorator expressions, not keyword arguments"
  | .starredDecorator => "attr(...) does not accept starred expressions"
  | .unclearName => "name(...) expects a single identifier"
  | .unknownDirective name =>
    "unexpected name for diff directive '" ++ name ++ "'; possible names: 'attr', 'name'"
  | .enumeration className =>
    "not implemented: diff generation for enum-shaped class '" ++ className ++ "'"
  | .inheritance className base =>
    "not implemented: '" ++ className ++ "' inherits from '" ++ base ++
      "'; inherited fields are not diffed"
  | .missingTypes className =>
    "'Positional' base of '" ++ className ++ "' needs field types, e.g. Positional[int, int]"
  | .mixedFields className => "positional class '" ++ className ++ "' cannot declare named fields"
  | .privateField name => "name-mangled field '" ++ name ++ "' is not supported"
  | .duplicateField name className => "duplicate field '" ++ name ++ "' in '" ++ className ++ "'"
  | .markerStart => "@diff must start on its own line"
  | .markerEnd => "@diff must end its line"
  | .markedFunction name => "@diff can only tag classes; '" ++ name ++ "' is a function"
  | .nestedClass name =>
    "only module-level classes can be tagged with @diff; '" ++ name ++ "' is nested"
  | .collision name className =>
    "generated name '" ++ name ++ "' for '" ++ className ++ "' collides with an existing definition"
  | .unknownShape shape className =>
    "not implemented: shape '" ++ shape ++ "' of '" ++ className ++ "'"

end Fault

/-- Why a template cannot be read. -/
inductive TemplateError where
  /-- A fault with the line and column, both from one on, of what is at fault. -/
  | fault (fault : Fault) (line column : Int)
  /-- The text is not valid syntax. -/
  | invalidSyntax
  /-- The text holds the character with number zero. -/
  | nullCharacter
  /-- The text holds a lone surrogate. -/
  | unencodable
  /-- A column of a marker is inside a character of the line that it is looked up in. -/
  | splitCharacter
  /-- A marker's line does not exist. -/
  | missingLine
  /-- A base class that would have to be named in a message has no printed form. -/
  | unprintable (error : Printer.PrintError)
  deriving DecidableEq, Repr

namespace TemplateError

/-- A fault at the start of a span. -/
def ofFault (fault : Fault) (span : Span) : TemplateError :=
  .fault fault span.start.line (span.start.column + 1)

/-- A line that cannot be cut. -/
def ofCut : Text.CutError → TemplateError
  | .unencodable => .unencodable
  | .insideCharacter => .splitCharacter

end TemplateError

end DifferenceTypes
