/-!
# Binary floating-point numbers

A number of the 64-bit format is a sign, a mantissa below 2^53 and a power of two, or an infinity,
or not a number. Finite values are kept in one form only: the mantissa is at least 2^52 unless the
exponent is the least one, -1074. So two finite values are numerically equal exactly when they are
the same value, the two zeros apart.

`ofRatio` rounds any ratio of natural numbers to the nearest value, halves to the even mantissa, and
everything else is exact arithmetic followed by that one rounding: reading a decimal, addition,
conversion of integers.
-/

namespace DifferenceTypes

/-- A value of the 64-bit binary format. -/
inductive Binary64 where
  | finite (negative : Bool) (mantissa : Nat) (exponent : Int)
  | infinite (negative : Bool)
  | notANumber
  deriving DecidableEq, Repr, Inhabited

namespace Binary64

/-- Zero with a sign. -/
def zero (negative : Bool) : Binary64 :=
  .finite negative 0 (-1074)

/-- The numerator and denominator scaled by a power of two. -/
def scale (numerator denominator : Nat) (power : Int) : Nat × Nat :=
  if power < 0 then (numerator, denominator * Nat.pow 2 (-power).toNat)
  else (numerator * Nat.pow 2 power.toNat, denominator)

/-- The quotient rounded to the nearest natural number, halves to the even one. -/
def roundHalfEven (numerator denominator : Nat) : Nat :=
  let quotient := numerator / denominator
  let twice := 2 * (numerator % denominator)
  if twice > denominator || (twice == denominator && quotient % 2 == 1) then quotient + 1
  else quotient

/-- The value nearest to a ratio with a positive denominator. -/
def ofRatio (negative : Bool) (numerator denominator : Nat) : Binary64 :=
  if numerator = 0 then zero negative
  else
    let estimate : Int := (Nat.log2 numerator : Int) - (Nat.log2 denominator : Int) - 52
    let (scaledNumerator, scaledDenominator) := scale numerator denominator (-estimate)
    let fitted := if scaledNumerator < Nat.pow 2 52 * scaledDenominator then estimate - 1 else estimate
    let exponent := max fitted (-1074)
    let (finalNumerator, finalDenominator) := scale numerator denominator (-exponent)
    let rounded := roundHalfEven finalNumerator finalDenominator
    let (mantissa, exponent) :=
      if rounded = Nat.pow 2 53 then (Nat.pow 2 52, exponent + 1) else (rounded, exponent)
    if exponent > 971 then .infinite negative else .finite negative mantissa exponent

/-- The value nearest to a dyadic number. -/
def ofDyadic (number : Int) (exponent : Int) (negativeZero : Bool) : Binary64 :=
  if number = 0 then zero negativeZero
  else
    let (numerator, denominator) := scale number.natAbs 1 exponent
    ofRatio (number < 0) numerator denominator

/-- The value nearest to an integer; infinite if the integer is too large for the format. -/
def ofInt (number : Int) : Binary64 :=
  ofDyadic number 0 false

/-- The value nearest to a decimal: digits read as one number, times a power of ten. -/
def ofDecimal (negative : Bool) (digits : Nat) (power : Int) : Binary64 :=
  if digits = 0 then zero negative
  else
    let length : Int := (Nat.log2 digits : Int) / 3 + 1
    if power > 400 then .infinite negative
    else if power + length < -400 then zero negative
    else if power < 0 then ofRatio negative digits (Nat.pow 10 (-power).toNat)
    else ofRatio negative (digits * Nat.pow 10 power.toNat) 1

/-- The mantissa with its sign. -/
def signed (negative : Bool) (mantissa : Nat) : Int :=
  if negative then -(mantissa : Int) else mantissa

/-- The value with the other sign. -/
def negate : Binary64 → Binary64
  | .finite negative mantissa exponent => .finite (!negative) mantissa exponent
  | .infinite negative => .infinite (!negative)
  | .notANumber => .notANumber

/-- The sum, rounded once. A sum of opposite values is the positive zero. -/
def add : Binary64 → Binary64 → Binary64
  | .notANumber, _ => .notANumber
  | _, .notANumber => .notANumber
  | .infinite first, .infinite second => if first == second then .infinite first else .notANumber
  | .infinite negative, .finite .. => .infinite negative
  | .finite .., .infinite negative => .infinite negative
  | .finite firstNegative firstMantissa firstExponent,
    .finite secondNegative secondMantissa secondExponent =>
    let exponent := min firstExponent secondExponent
    let total := signed firstNegative (firstMantissa * Nat.pow 2 (firstExponent - exponent).toNat) +
      signed secondNegative (secondMantissa * Nat.pow 2 (secondExponent - exponent).toNat)
    ofDyadic total exponent (firstNegative && secondNegative)

/-- The difference, rounded once. -/
def sub (first second : Binary64) : Binary64 :=
  add first (negate second)

/-- Numerical equality: the zeros are equal and a value that is not a number differs from every
value. -/
def equals : Binary64 → Binary64 → Bool
  | .finite firstNegative firstMantissa firstExponent,
    .finite secondNegative secondMantissa secondExponent =>
    (firstMantissa == 0 && secondMantissa == 0) ||
      (firstNegative == secondNegative && firstMantissa == secondMantissa &&
        firstExponent == secondExponent)
  | .infinite first, .infinite second => first == second
  | _, _ => false

/-- Whether the value is exactly the integer. -/
def equalsInt : Binary64 → Int → Bool
  | .finite negative mantissa exponent, number =>
    if exponent < 0 then signed negative mantissa == number * Nat.pow 2 (-exponent).toNat
    else signed negative mantissa * Nat.pow 2 exponent.toNat == number
  | _, _ => false

theorem equals_comm (first second : Binary64) : equals first second = equals second first := by
  cases first <;> cases second <;>
    simp [equals, Bool.and_comm, BEq.comm (α := Bool), BEq.comm (α := Nat), BEq.comm (α := Int)]

end Binary64

end DifferenceTypes
