import DifferenceTypes.Syntax.Tree

/-!
# Number literals

A number is a whole number in base two, eight, ten or sixteen, or a decimal with a point or an
exponent, and a `j` behind a decimal makes it imaginary. Single underscores may stand between
digits. A whole number in base ten does not start with a zero unless it is zero, and has at most
4300 digits.

No letter, digit or underscore may follow directly, except that one of the words `and`, `else`,
`for`, `if`, `in`, `is`, `not` and `or` may start there.
-/

namespace DifferenceTypes.NumberLiteral

/-- The value of a digit in bases up to sixteen. -/
def digitValue (digit : Char) : Nat :=
  if digit.isDigit then digit.toNat - 48
  else if digit.isUpper then digit.toNat - 55
  else digit.toNat - 87

/-- Whether the character is a digit of the base. -/
def isDigitOf (base : Nat) (character : Char) : Bool :=
  (character.isDigit || ('a' ≤ character && character ≤ 'f') ||
    ('A' ≤ character && character ≤ 'F')) &&
    digitValue character < base

/-- The number that digits spell. -/
def valueOf (base : Nat) (digits : List Char) : Nat :=
  digits.foldl (fun value digit => value * base + digitValue digit) 0

/-- Digits up to the first other character, single underscores between them left out; fails on an
underscore that no digit follows. -/
def digits? (base : Nat) : List Char → Option (List Char × List Char)
  | '_' :: next :: rest =>
    if isDigitOf base next then
      (digits? base rest).map fun (digits, after) => (next :: digits, after)
    else none
  | ['_'] => none
  | character :: rest =>
    if isDigitOf base character then
      (digits? base rest).map fun (digits, after) => (character :: digits, after)
    else some ([], character :: rest)
  | [] => some ([], [])

/-- Whether a number may end before these characters. -/
def mayEndBefore (rest : List Char) : Bool :=
  match rest with
  | [] => true
  | next :: _ =>
    !(next.isAlphanum || next == '_' || next.toNat ≥ 0x80) ||
      ["and", "else", "for", "if", "in", "is", "not", "or"].any fun word =>
        word.toList.isPrefixOf rest

/-- A value with what follows it, if the number may end there. -/
def finish (value : Constant) (rest : List Char) : Option (Constant × List Char) :=
  if mayEndBefore rest then some (value, rest) else none

/-- A decimal from its whole digits, fraction digits and exponent. -/
def decimal (whole fraction : List Char) (exponent : Int) : Binary64 :=
  Binary64.ofDecimal false (valueOf 10 (whole ++ fraction)) (exponent - fraction.length)

/-- Finishes a decimal, imaginary if a `j` follows. -/
def finishDecimal (value : Binary64) : List Char → Option (Constant × List Char)
  | 'j' :: rest => finish (.imaginary value) rest
  | 'J' :: rest => finish (.imaginary value) rest
  | rest => finish (.real value) rest

/-- An exponent: a sign or none, then digits. No result means that what follows the letter is no
exponent. -/
def exponent? (characters : List Char) : Option (Option (Int × List Char)) :=
  let unsigned (negative : Bool) (rest : List Char) : Option (Option (Int × List Char)) :=
    (digits? 10 rest).map fun (digits, after) =>
      let amount : Int := valueOf 10 digits
      some (if negative then -amount else amount, after)
  match characters with
  | '+' :: digit :: rest => if digit.isDigit then unsigned false (digit :: rest) else none
  | '-' :: digit :: rest => if digit.isDigit then unsigned true (digit :: rest) else none
  | digit :: rest => if digit.isDigit then unsigned false (digit :: rest) else some none
  | [] => some none

/-- What may follow the digits of a decimal with a point: an exponent, a `j`, or the end. -/
def afterFraction (whole fraction : List Char) (rest : List Char) : Option (Constant × List Char) :=
  match rest with
  | letter :: after =>
    if letter == 'e' || letter == 'E' then
      match exponent? after with
      | none => none
      | some (some (exponent, remaining)) =>
        finishDecimal (decimal whole fraction exponent) remaining
      | some none => finish (.real (decimal whole fraction 0)) rest
    else finishDecimal (decimal whole fraction 0) rest
  | [] => finishDecimal (decimal whole fraction 0) rest

/-- The fraction behind a point. -/
def fraction? (whole rest : List Char) : Option (Constant × List Char) :=
  match rest with
  | digit :: _ =>
    if digit.isDigit then do
      let (fraction, after) ← digits? 10 rest
      afterFraction whole fraction after
    else afterFraction whole [] rest
  | [] => afterFraction whole [] rest

/-- A whole number in base ten. -/
def wholeNumber (digits rest : List Char) : Option (Constant × List Char) :=
  if digits.length > 4300 || (digits.head? == some '0' && digits.any (· != '0')) then none
  else finish (.integer (valueOf 10 digits)) rest

/-- A number that starts with a digit in base ten. -/
def decimalNumber? (characters : List Char) : Option (Constant × List Char) := do
  let (whole, rest) ← digits? 10 characters
  match rest with
  | '.' :: after => fraction? whole after
  | letter :: after =>
    if letter == 'e' || letter == 'E' then
      match exponent? after with
      | none => none
      | some (some (exponent, remaining)) => finishDecimal (decimal whole [] exponent) remaining
      | some none => wholeNumber whole rest
    else if letter == 'j' || letter == 'J' then finish (.imaginary (decimal whole [] 0)) after
    else wholeNumber whole rest
  | [] => wholeNumber whole rest

/-- The digits of a number in another base, the first perhaps after an underscore. -/
def basedNumber? (base : Nat) (characters : List Char) : Option (Constant × List Char) := do
  let start := match characters with
    | '_' :: rest => rest
    | rest => rest
  let first ← start.head?
  if isDigitOf base first then
    let (digits, rest) ← digits? base start
    if base ≤ 10 && (rest.head?.map Char.isDigit).getD false then none
    else finish (.integer (valueOf base digits)) rest
  else none

/-- The number at the start of the characters, which is a digit or a point before a digit. -/
def read? : List Char → Option (Constant × List Char)
  | '.' :: rest => fraction? [] rest
  | '0' :: 'x' :: rest => basedNumber? 16 rest
  | '0' :: 'X' :: rest => basedNumber? 16 rest
  | '0' :: 'o' :: rest => basedNumber? 8 rest
  | '0' :: 'O' :: rest => basedNumber? 8 rest
  | '0' :: 'b' :: rest => basedNumber? 2 rest
  | '0' :: 'B' :: rest => basedNumber? 2 rest
  | characters => decimalNumber? characters

end DifferenceTypes.NumberLiteral
