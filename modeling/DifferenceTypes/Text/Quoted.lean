import DifferenceTypes.Text.Printable

/-!
# Quoted text

A quoted text stands between two single quotes, or between double quotes when it holds a single
quote and no double quote. Inside, the quote in use and the backslash get a backslash before them;
tab, line feed and carriage return are written as letters after a backslash; any other character
that is not printable is written by number, with two, four or eight hexadecimal digits, whichever is
the least that suffices. So a quoted text is always one line of printable characters.

Bytes are quoted in the same way after a `b`, every byte outside printable ASCII by two digits.
-/

namespace DifferenceTypes

/-- The lower-case hexadecimal digit for a number below sixteen. -/
def hexadecimalDigit (number : Nat) : Char :=
  if number < 10 then Char.ofNat (48 + number) else Char.ofNat (87 + number)

/-- A number's lowest hexadecimal digits, as many as asked for. -/
def hexadecimal : Nat → Nat → List Char
  | 0, _ => []
  | count + 1, number => hexadecimal count (number / 16) ++ [hexadecimalDigit (number % 16)]

namespace Quoted

/-- A code point by its number, in the shortest of the three forms that holds it. -/
def byNumber (number : Nat) : List Char :=
  if number < 0x100 then '\\' :: 'x' :: hexadecimal 2 number
  else if number < 0x10000 then '\\' :: 'u' :: hexadecimal 4 number
  else '\\' :: 'U' :: hexadecimal 8 number

/-- How a code point that is not printable is written. -/
def escape (point : CodePoint) : List Char :=
  if point == .scalar '\t' then ['\\', 't']
  else if point == .scalar '\n' then ['\\', 'n']
  else if point == .scalar '\r' then ['\\', 'r']
  else byNumber point.value

/-- How a code point is written between the given quotes. -/
def write (quote : Char) (point : CodePoint) : List Char :=
  match point with
  | .scalar character =>
    if character == quote || character == '\\' then ['\\', character]
    else if isPrintableCharacter character then [character]
    else escape point
  | .surrogate _ => escape point

/-- The quote that surrounds a text. -/
def quoteFor (text : Text) : Char :=
  if text.elem (.scalar '\'') && !text.elem (.scalar '"') then '"' else '\''

/-- The quoted form of a text. -/
def ofText (text : Text) : List Char :=
  let quote := quoteFor text
  quote :: text.flatMap (write quote) ++ [quote]

/-- How a byte is written between the given quotes. -/
def writeByte (quote : Char) (byte : UInt8) : List Char :=
  let character := Char.ofNat byte.toNat
  if character == quote || character == '\\' then ['\\', character]
  else if 0x20 ≤ byte.toNat && byte.toNat < 0x7F then [character]
  else if character == '\t' || character == '\n' || character == '\r' then
    escape (.scalar character)
  else '\\' :: 'x' :: hexadecimal 2 byte.toNat

/-- The quoted form of a byte sequence. -/
def ofBytes (bytes : List UInt8) : List Char :=
  let quote := if bytes.elem 0x27 && !bytes.elem 0x22 then '"' else '\''
  'b' :: quote :: bytes.flatMap (writeByte quote) ++ [quote]

end Quoted

end DifferenceTypes
