/-
This file holds exact decimals: an unscaled integer and a count of decimal
places. Zeros at the end are part of a decimal, so `1.10` stays `1.10`. The
count of places may be negative, and is limited to a signed 64-bit word.
-/

import ConsumerContract.Number.Numeral

namespace ConsumerContract

/-- The number `unscaled * 10 ^ (-scale)`. -/
structure Decimal where
  unscaled : Int
  scale : Int
  deriving DecidableEq, Repr, Inhabited

namespace Decimal

/-! ### Reading -/

/-- Whether a count of places can be stored. -/
def fitsScale (scale : Int) : Bool :=
  Int64.minValue.toInt ≤ scale && scale ≤ Int64.maxValue.toInt

/-- The first number beyond the signed words of 128 bits. -/
def exponentLimit : Int := 0x80000000000000000000000000000000

/-- Whether a written exponent can be read at all. -/
def fitsExponent (exponent : Int) : Bool :=
  -exponentLimit ≤ exponent && exponent < exponentLimit

/-- The decimal of digits with `places` of them behind the point. -/
def ofDigits? (negative : Bool) (digits places : Nat) (exponent : Int) : Option Decimal :=
  let scale := (places : Int) - exponent
  if fitsExponent exponent && fitsScale scale then
    some ⟨if negative then -(digits : Int) else digits, scale⟩
  else none

/-- The exact number of a numeral. -/
def ofNumeral? (numeral : Numeral) : Option Decimal :=
  ofDigits? numeral.negative numeral.unscaled numeral.fraction.length numeral.exponentValue

/-- Digits with separating underscores, none of them in front. -/
def digits? : List Char → Option (List Digit)
  | [] => none
  | '_' :: _ => none
  | text => (text.filter (· ≠ '_')).mapM Digit.ofChar?

/-- A text with one sign at most in front. -/
def withoutSign : List Char → Bool × List Char
  | '-' :: rest => (true, rest)
  | '+' :: rest => (false, rest)
  | rest => (false, rest)

/-- A whole number with an optional sign, as an exponent has it. -/
def exponent? (text : List Char) : Option Int :=
  let (negative, unsigned) := withoutSign text
  (Digit.ofText? unsigned).map fun digits =>
    if negative then -(Digit.value digits : Int) else Digit.value digits

/-- A decimal as it is commonly typed: an optional sign, digits with an optional
point, and an optional exponent. -/
def ofText? (text : String) : Option Decimal :=
  let chars := text.toList
  let base := chars.takeWhile fun char => char ≠ 'e' ∧ char ≠ 'E'
  let exponentText := (chars.drop base.length).drop 1
  let (negative, unsigned) := withoutSign base
  let whole := unsigned.takeWhile (· ≠ '.')
  let fraction := (unsigned.drop whole.length).drop 1
  match digits? (whole ++ fraction),
      (if base.length = chars.length then some 0 else exponent? exponentText) with
  | some digits, some exponent =>
    ofDigits? negative (Digit.value digits) (fraction.filter (· ≠ '_')).length exponent
  | _, _ => none

/-- A whole number. -/
def ofInt (number : Int) : Decimal :=
  ⟨number, 0⟩

/-! ### Writing -/

/-- More zeros than this between the point and the first digit make an exponent. -/
def leadingZeroLimit : Int := 5

/-- More zeros than this between the last digit and the point make an exponent. -/
def trailingZeroLimit : Int := 15

/-- The decimal as a numeral: positional unless too many zeros would be needed.
A small number then has one digit in front of the point, a large one has its
digits as they are. -/
def numeral (decimal : Decimal) : Numeral :=
  let negative : Bool := decimal.unscaled < 0
  let digits := Digit.ofNat decimal.unscaled.natAbs
  let count : Int := digits.length
  if decimal.unscaled = 0 then { negative := false, whole := 0 }
  else if decimal.scale - count > leadingZeroLimit then
    let leading := count - 1 - decimal.scale
    { negative
      whole := Digit.value (digits.take 1)
      fraction := digits.drop 1
      exponent := some { negative := leading < 0, leadingZeros := 0, magnitude := leading.natAbs } }
  else if -decimal.scale > trailingZeroLimit then
    { negative
      whole := decimal.unscaled.natAbs
      exponent := some
        { negative := false, leadingZeros := 0, magnitude := decimal.scale.natAbs } }
  else if decimal.scale ≤ 0 then
    { negative, whole := decimal.unscaled.natAbs * Nat.pow 10 decimal.scale.natAbs }
  else
    let places := decimal.scale.natAbs
    let padded := List.replicate (places + 1 - digits.length) .zero ++ digits
    { negative
      whole := Digit.value (padded.take (padded.length - places))
      fraction := padded.drop (padded.length - places) }

/-- The decimal as text: its numeral, with a capital letter in front of a negative
exponent. -/
def text (decimal : Decimal) : String :=
  let numeral := decimal.numeral
  match numeral.exponent with
  | some ⟨true, zeros, magnitude⟩ =>
    { numeral with exponent := none : Numeral }.text ++ "E-" ++
      Digit.text (Exponent.digits ⟨true, zeros, magnitude⟩)
  | _ => numeral.text

end Decimal

end ConsumerContract
