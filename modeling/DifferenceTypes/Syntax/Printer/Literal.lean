import DifferenceTypes.Number.Shortest
import DifferenceTypes.Syntax.Tree
import DifferenceTypes.Text.Quoted

/-!
# Printing literals

A constant is printed in one spelling, whatever spelling it was read from. Text is usually quoted as
`DifferenceTypes.Text.Quoted` says. Inside an interpolation no backslash may stand, so there text is
kept as it is as far as possible and the quotes are chosen to fit it: `fit` gives the text to stand
between the quotes together with the quotes that may surround it, and `fitAll` does so for the parts
of an f-string, which share their quotes.

A real number beyond the range of the format is printed as a decimal that is beyond it too.
-/

namespace DifferenceTypes.Printer

/-- Why an expression cannot be printed. -/
inductive PrintError where
  /-- An interpolation would hold a backslash. -/
  | backslashInInterpolation
  /-- A whole number has more than 4300 digits. -/
  | numberTooLong
  deriving DecidableEq, Repr

/-- Whether backslashes may stand in what is printed. -/
inductive Quoting where
  | free
  | withoutBackslashes
  deriving DecidableEq, Repr

/-- The quotes around a text, the preferred ones first. -/
def allQuotes : List Text :=
  ["'", "\"", "\"\"\"", "'''"]

/-- Whether a quote may surround text with line ends. -/
def surroundsLines (quote : Text) : Bool :=
  quote.length == 3

/-- A code point between quotes: itself if it is printable, a line feed or tab itself unless those
are escaped too. -/
def writeFitted (escapesLayout : Bool) (point : CodePoint) : Text :=
  if !escapesLayout && (point == .scalar '\n' || point == .scalar '\t') then [point]
  else if point == .scalar '\\' then "\\\\"
  else if point.isPrintable then [point]
  else Text.ofCharacters (Quoted.escape point)

/-- What stands between the quotes of a quoted text. -/
def betweenQuotes (text : Text) : Text :=
  Text.ofCharacters ((Quoted.ofText text).drop 1).dropLast

/-- The quotes that do not occur in a text, three of them if it has line ends. -/
def possibleQuotes (quotes : List Text) (text : Text) : List Text :=
  let wide := if text.elem (.scalar '\n') then quotes.filter surroundsLines else quotes
  wide.filter fun quote => !Text.contains quote text

/-- The quotes that a text does not end in, and behind them the others. -/
def preferred (last : CodePoint) (quotes : List Text) : List Text :=
  quotes.filter (·.head? != some last) ++ quotes.filter (·.head? == some last)

/-- A text as it stands between quotes, and the quotes that fit it, out of those on offer. If none
fits, the text is escaped as in its quoted form and the quote is the first on offer that consists of
the one used there. -/
def fit (quotes : List Text) (escapesLayout : Bool) (text : Text) : Text × List Text :=
  let escaped := text.flatMap (writeFitted escapesLayout)
  match possibleQuotes quotes escaped, escaped.getLast? with
  | [], _ =>
    let used : CodePoint := .scalar (Quoted.quoteFor text)
    (betweenQuotes text, [(quotes.find? (·.elem used)).getD [used]])
  | possible, none => (escaped, possible)
  | possible, some last =>
    let sorted := preferred last possible
    let final :=
      if (sorted.head?.bind (·.head?)) == some last then escaped.dropLast ++ [.scalar '\\', last]
      else escaped
    (final, sorted)

/-- A text between quotes that fit it. -/
def printFitted (text : Text) : Text :=
  let (inside, quotes) := fit allQuotes false text
  let quote := quotes.head?.getD []
  quote ++ inside ++ quote

/-- The parts of an f-string one after the other, each fitted to the quotes that fit all before it.
No result means that no quotes fit all parts. Parts that are plain text may have their layout
escaped. -/
def fitAll : List Text → List (Text × Bool) → Option (Text × List Text)
  | quotes, [] => some ([], quotes)
  | quotes, (part, isPlain) :: rest =>
    let (inside, fitting) := fit quotes isPlain part
    if fitting.any quotes.elem then
      (fitAll fitting rest).map fun (others, final) => (inside ++ others, final)
    else none

/-- A part of an f-string escaped for single quotes, whatever it holds. -/
def escapedForSingleQuotes (part : Text) : Text :=
  (betweenQuotes (.scalar '"' :: part)).drop 1

/-- The parts of an f-string between quotes. -/
def printParts (parts : List (Text × Bool)) : Text :=
  match fitAll allQuotes parts with
  | some (inside, quotes) =>
    let quote := quotes.head?.getD []
    quote ++ inside ++ quote
  | none => "'''" ++ parts.flatMap (fun part => escapedForSingleQuotes part.1) ++ "'''"

/-- A text of an f-string, its braces doubled. -/
def doubledBraces (text : Text) : Text :=
  text.flatMap fun point =>
    if point == .scalar '\x7b' || point == .scalar '\x7d' then [point, point] else [point]

/-- A real number, or the factor of an imaginary one. -/
def printReal (wholeMark : Bool) (value : Binary64) : Text :=
  match value with
  | .infinite _ => "1e309"
  | _ => Text.ofCharacters (value.write wholeMark)

/-- A whole number in base ten. -/
def printInteger (value : Nat) : Except PrintError Text :=
  let digits := Nat.toDigits 10 value
  if digits.length > 4300 then .error .numberTooLong else .ok (Text.ofCharacters digits)

/-- A literal. -/
def printConstant (quoting : Quoting) : Constant → Except PrintError Text
  | .none => .ok "None"
  | .truth true => .ok "True"
  | .truth false => .ok "False"
  | .ellipsis => .ok "..."
  | .integer value => printInteger value
  | .real value => .ok (printReal true value)
  | .imaginary value => .ok (printReal false value ++ "j")
  | .bytes value => .ok (Text.ofCharacters (Quoted.ofBytes value))
  | .text value marked =>
    let quoted : Text := match quoting with
      | .free => Text.ofCharacters (Quoted.ofText value)
      | .withoutBackslashes => printFitted value
    .ok ((if marked then "u" else "") ++ quoted)

/-- Whether a point behind the literal would be read as a part of it. -/
def absorbsPoint : Constant → Bool
  | .integer _ | .truth _ => true
  | _ => false

end DifferenceTypes.Printer
