import DifferenceTypes.Object.Description
import DifferenceTypes.Object.Operator
import DifferenceTypes.Syntax.Number
import DifferenceTypes.Text.Blank

/-!
# Conversions

Values made of other values by calling the class of plain values or of a collection: integers and
floating-point numbers of numbers and of texts that spell one, texts of descriptions, collections of
the elements of other collections. A text that spells a number may have blanks around it and a sign
in front.
-/

namespace DifferenceTypes.Conversion

variable {κ : Type}

/-- The sign of a written number, and the characters behind it. -/
def signed : List Char → Bool × List Char
  | '-' :: rest => (true, rest)
  | '+' :: rest => (false, rest)
  | rest => (false, rest)

/-- The integer that a text spells. -/
def integerOfText? (text : Text) : Option Int := do
  let (negative, characters) := signed (← (Text.strip text).characters?)
  let first ← characters.head?
  if !first.isDigit then none
  else
    let (digits, rest) ← NumberLiteral.digits? 10 characters
    if rest.isEmpty && digits.length ≤ 4300 then
      let amount : Int := NumberLiteral.valueOf 10 digits
      return if negative then -amount else amount
    else none

/-- The fraction and the exponent behind the whole digits of a number. -/
def fractionAndExponent? (whole rest : List Char) : Option Binary64 := do
  let (fraction, behind) ← match rest with
    | '.' :: digit :: after =>
      if digit.isDigit then NumberLiteral.digits? 10 (digit :: after) else some ([], digit :: after)
    | ['.'] => some ([], [])
    | other => some ([], other)
  if whole.isEmpty && fraction.isEmpty then none
  else
    match behind with
    | [] => some (NumberLiteral.decimal whole fraction 0)
    | letter :: after =>
      if letter == 'e' || letter == 'E' then
        match NumberLiteral.exponent? after with
        | some (some (exponent, [])) => some (NumberLiteral.decimal whole fraction exponent)
        | _ => none
      else none

/-- The floating-point number that a text spells. -/
def realOfText? (text : Text) : Option Binary64 := do
  let (negative, characters) := signed (← (Text.strip text).characters?)
  let word := String.ofList (characters.map Char.toLower)
  let magnitude ←
    if word == "inf" || word == "infinity" then some (.infinite false)
    else if word == "nan" then some .notANumber
    else
      match characters with
      | first :: _ =>
        if first.isDigit then do
          let (whole, rest) ← NumberLiteral.digits? 10 characters
          fractionAndExponent? whole rest
        else fractionAndExponent? [] characters
      | [] => none
  return if negative then magnitude.negate else magnitude

/-- The integer that a floating-point number is when its fraction is cut off. -/
def truncated : Binary64 → Run κ Int
  | .finite negative mantissa exponent =>
    if exponent < 0 then return Binary64.signed negative (mantissa / Nat.pow 2 (-exponent).toNat)
    else return Binary64.signed negative (mantissa * Nat.pow 2 exponent.toNat)
  | .infinite _ => throw .tooLarge
  | .notANumber => throw .badValue

/-- The integer made of arguments. -/
def toInteger : List Value → Run κ Int
  | [] => return 0
  | [value] => do
    match ← Run.view value with
    | .scalar (.real number) => truncated number
    | .scalar (.text text) =>
      match integerOfText? text with
      | some number => return number
      | none => throw .badValue
    | .scalar plain =>
      match plain.integer? with
      | some number => return number
      | none => throw .wrongType
    | _ => throw .wrongType
  | [_, _] => throw .unsupported
  | _ => throw .wrongType

/-- The floating-point number made of arguments. -/
def toReal : List Value → Run κ Binary64
  | [] => return Binary64.zero false
  | [value] => do
    match ← Run.view value with
    | .scalar (.real number) => return number
    | .scalar (.text text) =>
      match realOfText? text with
      | some number => return number
      | none => throw .badValue
    | .scalar plain =>
      match plain.integer? with
      | some number => Operator.toReal number
      | none => throw .wrongType
    | _ => throw .wrongType
  | _ => throw .wrongType

/-- The text made of arguments. -/
def toText (call : Caller κ) : List Value → Run κ Text
  | [] => return []
  | [value] => Description.plain call value
  | _ => throw .wrongType

/-- The elements of the arguments. -/
def toItems : List Value → Run κ (List Value)
  | [] => return []
  | [value] => Run.elements value
  | _ => throw .wrongType

/-- The entry that a pair is. -/
def toEntry (value : Value) : Run κ (Value × Value) := do
  match ← Run.elements value with
  | [key, held] => return (key, held)
  | _ => throw .badValue

/-- The entries that the arguments by position are: those of a dictionary or pairs. -/
def positionalEntries : List Value → Run κ (List (Value × Value))
  | [] => return []
  | [value] => do
    match ← Run.view value with
    | .dictionary entries => return entries
    | _ => (← Run.elements value).mapM toEntry
  | _ => throw .wrongType

/-- The entries made of arguments, those given by keyword last. -/
def toEntries (call : Caller κ) (arguments : Arguments) : Run κ (List (Value × Value)) := do
  let first ← positionalEntries arguments.positional
  let named := arguments.named.map fun (name, value) => (Value.text name, value)
  (first ++ named).foldlM (fun entries (key, value) => do
    Comparison.checkHashable call key
    Operator.putEntry call key value entries) []

end DifferenceTypes.Conversion
