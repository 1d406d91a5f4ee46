/-
This file holds numerals, the number literals of JSON texts. A numeral keeps
every written digit, because compiled contracts repeat numbers as they were
authored. The only freedom the type leaves out is the letter and the missing
sign of an exponent: both spellings of one exponent are the same numeral.
-/

import ConsumerContract.Number.Digits

namespace ConsumerContract

/-- The power of ten after a numeral's digits. Zeros in front of it are kept. -/
structure Exponent where
  negative : Bool
  leadingZeros : Nat
  magnitude : Nat
  deriving DecidableEq, Repr, Inhabited

/-- A number literal: a sign, a whole part without superfluous zeros, the digits
after the point (none if there is no point) and an exponent. -/
structure Numeral where
  negative : Bool
  whole : Nat
  fraction : List Digit := []
  exponent : Option Exponent := none
  deriving DecidableEq, Repr, Inhabited

namespace Exponent

/-- The exponent that these digits write; there is always at least one digit. -/
def ofDigits (negative : Bool) (digits : List Digit) : Exponent :=
  let zeros := (digits.takeWhile (· = .zero)).length
  let magnitude := Digit.value digits
  { negative
    leadingZeros := if magnitude = 0 then zeros - 1 else zeros
    magnitude }

/-- The exponent as a number. -/
def toInt (exponent : Exponent) : Int :=
  if exponent.negative then -(exponent.magnitude : Int) else exponent.magnitude

/-- The digits of the exponent as they were written. -/
def digits (exponent : Exponent) : List Digit :=
  List.replicate exponent.leadingZeros .zero ++ Digit.ofNat exponent.magnitude

end Exponent

namespace Numeral

/-- The literal: an exponent is written with `e` and always has a sign. -/
def text (numeral : Numeral) : String :=
  (if numeral.negative then "-" else "") ++ decimalText numeral.whole ++
    (if numeral.fraction.isEmpty then "" else "." ++ Digit.text numeral.fraction) ++
    match numeral.exponent with
    | none => ""
    | some exponent =>
      (if exponent.negative then "e-" else "e+") ++ Digit.text exponent.digits

/-- The numeral of a whole number. -/
def ofInt (number : Int) : Numeral :=
  { negative := number < 0, whole := number.natAbs }

/-- The numeral of a natural number. -/
def ofNat (number : Nat) : Numeral :=
  { negative := false, whole := number }

/-- Whether the literal has neither a point nor an exponent. -/
def isWhole (numeral : Numeral) : Bool :=
  numeral.fraction.isEmpty && numeral.exponent.isNone

/-- All digits before the exponent, read as one number without the point. -/
def unscaled (numeral : Numeral) : Nat :=
  Digit.valueFrom numeral.whole numeral.fraction

/-- The written exponent, zero if there is none. -/
def exponentValue (numeral : Numeral) : Int :=
  match numeral.exponent with
  | none => 0
  | some exponent => exponent.toInt

/-- The number of a whole literal. -/
def toInt? (numeral : Numeral) : Option Int :=
  if numeral.isWhole then
    some (if numeral.negative then -(numeral.whole : Int) else numeral.whole)
  else none

/-- The number of a whole literal that fits in a signed 64-bit word. -/
def toInt64? (numeral : Numeral) : Option Int64 :=
  numeral.toInt?.bind fun number =>
    if Int64.minValue.toInt ≤ number ∧ number ≤ Int64.maxValue.toInt then
      some (Int64.ofInt number)
    else none

/-- The number of a whole literal without a sign that fits in a 64-bit word;
`-0` has a sign. -/
def toUInt64? (numeral : Numeral) : Option UInt64 :=
  if numeral.isWhole ∧ numeral.negative = false ∧ numeral.whole < UInt64.size then
    some (UInt64.ofNat numeral.whole)
  else none

end Numeral

end ConsumerContract
