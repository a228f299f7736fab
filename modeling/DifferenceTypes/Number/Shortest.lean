import DifferenceTypes.Number.Binary64

/-!
# The shortest decimal of a floating-point number

A finite value is written with the fewest digits that read back as the same value; of several
decimals of that length it is the nearest one. The real numbers that read back as a value form an
interval around it, whose ends belong to it when the mantissa is even. For one digit, two digits and
so on, the two neighbours of the value on that decimal grid are tried; seventeen digits always
suffice.

The decimal is positional while its exponent is from -4 to 15, with at least one digit on either
side of the point. Otherwise it is one digit, the rest after a point if there is a rest, and an
exponent with a sign and at least two digits.
-/

namespace DifferenceTypes.Binary64

/-- The interval of ratios that read back as a value, in quarters of a unit of its exponent. -/
structure ReadBack where
  low : Nat
  middle : Nat
  high : Nat
  closed : Bool
  deriving Repr

/-- The interval around a mantissa. Below a power of two the neighbours are twice as close, except
at the bottom. -/
def readBack (mantissa : Nat) (exponent : Int) : ReadBack :=
  let below := if mantissa == Nat.pow 2 52 && exponent > -1074 then 1 else 2
  ⟨4 * mantissa - below, 4 * mantissa, 4 * mantissa + 2, mantissa % 2 == 0⟩

/-- Whether a decimal grid point, as a ratio in quarter units, lies in the interval. -/
def ReadBack.holds (interval : ReadBack) (numerator denominator : Nat) : Bool :=
  if interval.closed then
    interval.low * denominator ≤ numerator && numerator ≤ interval.high * denominator
  else interval.low * denominator < numerator && numerator < interval.high * denominator

/-- The nearest of the two neighbours on the grid of `10 ^ power` that reads back, if one does.
`unit` is the ratio of a quarter unit. -/
def onGrid? (interval : ReadBack) (unitNumerator unitDenominator : Nat) (power : Int) :
    Option Nat :=
  let (gridNumerator, gridDenominator) : Nat × Nat :=
    if power < 0 then (1, Nat.pow 10 (-power).toNat) else (Nat.pow 10 power.toNat, 1)
  let numerator := interval.middle * unitNumerator * gridDenominator
  let denominator := unitDenominator * gridNumerator
  let lower := numerator / denominator
  let distance := 2 * (numerator % denominator)
  let candidate (point : Nat) : Bool :=
    interval.holds (point * gridNumerator * unitDenominator) (unitNumerator * gridDenominator)
  let (near, far) := if distance > denominator || (distance == denominator && lower % 2 == 1)
    then (lower + 1, lower) else (lower, lower + 1)
  if candidate near then some near else if candidate far then some far else none

/-- The number of decimal digits of a positive number. -/
def digitCount (number : Nat) : Nat :=
  (Nat.toDigits 10 number).length

/-- The first grid with a hit, from one digit to the given many. -/
def firstGrid (interval : ReadBack) (unitNumerator unitDenominator : Nat) (magnitude : Int) :
    List Nat → Nat × Int
  | [] => (interval.middle * unitNumerator / unitDenominator, 0)
  | count :: rest =>
    let power := magnitude - (count : Int)
    match onGrid? interval unitNumerator unitDenominator power with
    | some point => (point, power)
    | none => firstGrid interval unitNumerator unitDenominator magnitude rest

/-- The power of ten just above a positive ratio: the ratio is less than it and at least its
tenth. -/
def magnitude (numerator denominator : Nat) : Int :=
  let whole := numerator / denominator
  if whole > 0 then digitCount whole
  else
    let inverse := denominator / numerator
    let zeros := digitCount inverse
    if denominator ≤ numerator * Nat.pow 10 (zeros - 1) then 2 - (zeros : Int) else 1 - (zeros : Int)

/-- The digits of the shortest decimal without zeros at the end, and the power of ten of the first
digit's left. -/
def shortestDigits (mantissa : Nat) (exponent : Int) : List Char × Int :=
  let (unitNumerator, unitDenominator) := scale 1 1 (exponent - 2)
  let interval := readBack mantissa exponent
  let above := magnitude (interval.middle * unitNumerator) unitDenominator
  let (digits, power) :=
    firstGrid interval unitNumerator unitDenominator above ((List.range 17).map (· + 1))
  let written := Nat.toDigits 10 digits
  let significant := (written.reverse.dropWhile (· == '0')).reverse
  (significant, power + written.length)

/-- Digits with the point after the first `point` of them, positional or with an exponent. -/
def layOut (digits : List Char) (point : Int) (wholeMark : Bool) : List Char :=
  if -4 < point ∧ point ≤ 16 then
    if point ≤ 0 then '0' :: '.' :: List.replicate (-point).toNat '0' ++ digits
    else if (digits.length : Int) ≤ point then
      digits ++ List.replicate (point.toNat - digits.length) '0' ++
        (if wholeMark then ['.', '0'] else [])
    else digits.take point.toNat ++ '.' :: digits.drop point.toNat
  else
    let exponent := point - 1
    let amount := Nat.toDigits 10 exponent.natAbs
    let first := match digits with
      | [single] => [single]
      | leading :: others => leading :: '.' :: others
      | [] => []
    first ++ 'e' :: (if exponent < 0 then '-' else '+') ::
      (if amount.length < 2 then '0' :: amount else amount)

/-- The text of a value, with or without `.0` on a whole number. -/
def write (wholeMark : Bool) : Binary64 → List Char
  | .notANumber => "nan".toList
  | .infinite negative => (if negative then ['-'] else []) ++ "inf".toList
  | .finite negative mantissa exponent =>
    (if negative then ['-'] else []) ++
      (if mantissa == 0 then (if wholeMark then "0.0".toList else ['0'])
       else
        let (digits, point) := shortestDigits mantissa exponent
        layOut digits point wholeMark)

/-- The shortest decimal of a value; whole numbers end in `.0`. -/
def shortest (value : Binary64) : List Char :=
  write true value

end DifferenceTypes.Binary64
