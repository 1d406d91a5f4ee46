/-
This file writes floating-point numbers in two layouts: a plain text,
which example values are checked against patterns with, and a JSON numeral.
Both lay out the same shortest digits; they differ in when an exponent is used,
in whether a whole number keeps a zero behind the point, and in the choice
between two equally near decimals.
-/

import ConsumerContract.Number.Shortest

namespace ConsumerContract.Binary

variable {format : BinaryFormat}

/-- The digits of a decimal around its point. A decimal below one has the whole part 0. -/
def positional (decimal : ShortestDecimal) : Nat × List Digit :=
  if 0 ≤ decimal.exponent then (decimal.digits * Nat.pow 10 decimal.exponent.natAbs, [])
  else
    let places := decimal.exponent.natAbs
    let digits := Digit.ofNat decimal.digits
    let padded := List.replicate (places + 1 - digits.length) .zero ++ digits
    (Digit.value (padded.take (padded.length - places)), padded.drop (padded.length - places))

/-- The plain text of a number: the shortest digits, never an exponent, and no
point behind a whole number. -/
def text : Binary format → String
  | .nan => "NaN"
  | .infinite negative => if negative then "-inf" else "inf"
  | .finite negative significand power =>
    let (whole, fraction) := positional (.ofFinite format .up significand power)
    (if negative then "-" else "") ++ decimalText whole ++
      (if fraction.isEmpty then "" else "." ++ Digit.text fraction)

/-- The exponents of the first digit at which a JSON numeral has no exponent. -/
def isPositional (leading : Int) : Bool :=
  -5 ≤ leading && leading < 16

/-- The JSON numeral of shortest digits: positional with at least one digit
behind the point, otherwise one digit in front of the point and an exponent. -/
def numeralOf (negative : Bool) (decimal : ShortestDecimal) : Numeral :=
  let digits := Digit.ofNat decimal.digits
  let leading := decimal.exponent + digits.length - 1
  if decimal.digits = 0 ∨ isPositional leading then
    let (whole, fraction) := positional decimal
    { negative, whole, fraction := if fraction.isEmpty then [.zero] else fraction }
  else
    { negative
      whole := Digit.value (digits.take 1)
      fraction := digits.drop 1
      exponent := some { negative := leading < 0, leadingZeros := 0, magnitude := leading.natAbs } }

/-- The JSON numeral of a finite number. -/
def numeral? : Binary format → Option Numeral
  | .finite negative significand power =>
    some (numeralOf negative (.ofFinite format .toEven significand power))
  | _ => none

end ConsumerContract.Binary
