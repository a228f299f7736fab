import DifferenceTypes.Syntax.Segment
import DifferenceTypes.Syntax.Tree
import DifferenceTypes.Template.Fault
import DifferenceTypes.Text.Blank

/-!
# Markers

A class is marked with the decorator `diff`, alone or called with one directive. `attr(...)` passes
decorators on to the difference class and `name(...)` names it. A class may have several markers; of
each directive the last one counts.

A marker is taken out of the generated module with its lines, so it has to have these lines for
itself: nothing but its sign before it and nothing but a comment behind it. Its lines are looked up
by number among display lines, though the number counts source lines. Where the two conventions
differ before the marker, another line is looked at; that line rarely passes, and cutting it can
fail.
-/

namespace DifferenceTypes

namespace Expr

/-- The last name of a dotted name; empty for anything else. -/
def tailName {σ : Type} : Expr σ → String
  | .name _ identifier => identifier
  | .attribute _ _ identifier => identifier
  | _ => ""

/-- The last name of a dotted name, perhaps with a subscript. -/
def baseName {σ : Type} : Expr σ → String
  | .subscript _ value _ => value.tailName
  | expression => expression.tailName

/-- The text of an expression, if it is a plain text literal. -/
def literalText? {σ : Type} : Expr σ → Option Text
  | .constant _ (.text value _) => some value
  | _ => none

/-- Whether a decorator is the marker, called or not. -/
def isMarker : Expr → Bool
  | .name _ identifier => identifier == "diff"
  | .call _ (.name _ identifier) _ _ => identifier == "diff"
  | _ => false

/-- The source text of an expression. -/
def source (text : Text) (expression : Expr) : Except TemplateError Text :=
  (text.segment expression.span).mapError TemplateError.ofCut

end Expr

/-- What the markers of a class ask for: a name for the difference class, and decorators for it. -/
structure Options where
  override : Option Text
  decorators : List Text
  deriving DecidableEq, Repr, Inhabited

namespace Options

/-- The options of a class whose markers have no directives. -/
def none : Options :=
  ⟨Option.none, []⟩

end Options

namespace Marker

/-- A directive: its name and its arguments, with its span. -/
structure Directive where
  name : String
  span : Span
  arguments : List Expr
  keywords : List Keyword
  deriving Inhabited

/-- The directive inside a called marker. -/
def directive (span : Span) (arguments : List Expr) (keywords : List Keyword) :
    Except TemplateError Directive :=
  match keywords, arguments with
  | keyword :: _, _ => .error (.ofFault .keywordDirective keyword.span)
  | [], [] => .error (.ofFault .missingDirective span)
  | [], _ :: second :: _ => .error (.ofFault (.severalDirectives arguments.length) second.span)
  | [], [.call callSpan (.name _ identifier) inside named] =>
    .ok ⟨identifier, callSpan, inside, named⟩
  | [], [.name nameSpan identifier] => .error (.ofFault (.bareDirective identifier) nameSpan)
  | [], [other] => .error (.ofFault .notDirective other.span)

/-- The source text of a decorator that is passed on. -/
def decorator (text : Text) : Expr → Except TemplateError Text
  | .starred span _ => .error (.ofFault .starredDecorator span)
  | expression => expression.source text

/-- The decorators that a directive passes on. -/
def decorators (text : Text) (directive : Directive) : Except TemplateError (List Text) :=
  match directive.keywords with
  | keyword :: _ => .error (.ofFault .keywordDecorator keyword.span)
  | [] => directive.arguments.mapM (decorator text)

/-- The name that a directive gives to the difference class. -/
def override (directive : Directive) : Except TemplateError Text :=
  match directive.keywords, directive.arguments with
  | [], [.name _ identifier] => .ok identifier
  | _, _ => .error (.ofFault .unclearName directive.span)

/-- The options with those of one more marker. -/
def addTo (text : Text) (options : Options) : Expr → Except TemplateError Options
  | .call span _ arguments keywords => do
    let found ← directive span arguments keywords
    if found.name == "attr" then return { options with decorators := ← decorators text found }
    else if found.name == "name" then return { options with override := some (← override found) }
    else throw (.ofFault (.unknownDirective found.name) found.span)
  | _ => .ok options

/-- The options that the markers of a class ask for. -/
def options (text : Text) (markers : List Expr) : Except TemplateError Options :=
  markers.foldlM (addTo text) Options.none

/-! ### Lines of markers -/

/-- Where a marker stands: its first line and the column where it starts, its last line and the
column behind it. -/
structure Place where
  line : Int
  column : Int
  lastLine : Int
  stopColumn : Int
  deriving DecidableEq, Repr

/-- The place of a span. -/
def Place.ofSpan (span : Span) : Place :=
  ⟨span.start.line, span.start.column, span.stop.line, span.stop.column⟩

/-- The line with a number. Line zero is the last one, and negative numbers count on backwards from
there. -/
def line? (lines : List Text) (number : Int) : Option Text :=
  let index := if number ≤ 0 then (lines.length : Int) + number - 1 else number - 1
  if index < 0 then none else lines[index.toNat]?

/-- The first and last line of a marker, which has to have them for itself. -/
def lines (display : List Text) (place : Place) : Except TemplateError (Int × Int) := do
  let first ← (line? display place.line).elim (.error .missingLine) .ok
  let before ← (first.upToColumn place.column).mapError TemplateError.ofCut
  if before.strip != "@" then throw (.fault .markerStart place.line (place.column + 1))
  let last ← (line? display place.lastLine).elim (.error .missingLine) .ok
  let behind ← (last.fromColumn place.stopColumn).mapError TemplateError.ofCut
  let trailing := behind.strip
  if !trailing.isEmpty && trailing.head? != some (.scalar '#') then
    throw (.fault .markerEnd place.line (place.column + 1))
  return (place.line, place.lastLine)

end Marker

end DifferenceTypes
