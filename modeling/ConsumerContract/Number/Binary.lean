/-
This file holds binary floating-point numbers. A finite number is a significand
times a power of two, counted from the smallest positive number of its format,
so both its value and the neighbours it rounds from are exact naturals. Rounding
a fraction to a format goes to the nearest number, and a tie to the even
significand; the significand then has at most `precision` bits.
-/

import ConsumerContract.Number.Numeral

namespace ConsumerContract

/-- A binary format: its significands have `precision` bits, its smallest
positive number is `2 ^ (-unit)`, and `greatest` is the largest power that a
significand is multiplied with. -/
structure BinaryFormat where
  precision : Nat
  unit : Nat
  greatest : Nat
  deriving DecidableEq, Repr

/-- The format of 64-bit numbers. -/
def BinaryFormat.double : BinaryFormat := ⟨53, 1074, 2045⟩

/-- The format of 32-bit numbers. -/
def BinaryFormat.single : BinaryFormat := ⟨24, 149, 253⟩

/-- A floating-point number; `finite` stands for `significand * 2 ^ power` smallest
positive numbers of its format. -/
inductive Binary (format : BinaryFormat) where
  | nan
  | infinite (negative : Bool)
  | finite (negative : Bool) (significand power : Nat)
  deriving DecidableEq, Repr

/-- A 64-bit floating-point number. -/
abbrev Double := Binary .double

/-- A 32-bit floating-point number. -/
abbrev Single := Binary .single

/-! ### Rounding -/

/-- The quotient rounded to the nearest natural number; a tie goes to the even one. -/
def roundedQuotient (numerator denominator : Nat) : Nat :=
  let quotient := numerator / denominator
  let rest := numerator % denominator
  if 2 * rest < denominator then quotient
  else if 2 * rest = denominator ∧ quotient % 2 = 0 then quotient
  else quotient + 1

namespace Binary

variable {format : BinaryFormat}

/-- The number nearest to a fraction; the denominator is positive. -/
def ofFraction (format : BinaryFormat) (negative : Bool) (numerator denominator : Nat) :
    Binary format :=
  let units := numerator * Nat.pow 2 format.unit
  let power := (units / denominator).log2 + 1 - format.precision
  let significand := roundedQuotient units (denominator * Nat.pow 2 power)
  let (significand, power) :=
    if significand = Nat.pow 2 format.precision then (significand / 2, power + 1)
    else (significand, power)
  if power > format.greatest then .infinite negative else .finite negative significand power

/-- The number nearest to `digits * 10 ^ exponent`. Exponents far outside the
format are decided without computing the power. -/
def ofScientific (format : BinaryFormat) (negative : Bool) (digits : Nat) (exponent : Int) :
    Binary format :=
  let magnitude := exponent + (Digit.ofNat digits).length
  if digits = 0 then .finite negative 0 0
  else if magnitude > format.unit then .infinite negative
  else if magnitude < -(format.unit : Int) then .finite negative 0 0
  else if exponent < 0 then ofFraction format negative digits (Nat.pow 10 exponent.natAbs)
  else ofFraction format negative (digits * Nat.pow 10 exponent.natAbs) 1

/-- The number nearest to a numeral, unless it is beyond the greatest one. -/
def ofNumeral? (format : BinaryFormat) (numeral : Numeral) : Option (Binary format) :=
  match ofScientific format numeral.negative numeral.unscaled
      (numeral.exponentValue - numeral.fraction.length) with
  | .finite negative significand power => some (.finite negative significand power)
  | _ => none

/-- The same number in another format, rounded if that has less precision. -/
def convert {source : BinaryFormat} (target : BinaryFormat) : Binary source → Binary target
  | .nan => .nan
  | .infinite negative => .infinite negative
  | .finite negative significand power =>
    ofFraction target negative (significand * Nat.pow 2 power) (Nat.pow 2 source.unit)

/-- Whether the number is neither infinite nor undefined. -/
def isFinite : Binary format → Bool
  | .finite .. => true
  | _ => false

/-! ### Reading -/

/-- The text of letters in lower case; other characters stay. -/
def loweredLetters (text : List Char) : String :=
  String.ofList (text.map Char.toLower)

/-- Digits with an optional point and exponent, at least one digit in front of the exponent. -/
def readMagnitude (format : BinaryFormat) (negative : Bool) (text : List Char) :
    Option (Binary format) :=
  let (whole, afterWhole) := Digit.span text
  let (fraction, afterFraction) :=
    match afterWhole with
    | '.' :: rest => Digit.span rest
    | rest => ([], rest)
  if whole.isEmpty && fraction.isEmpty then none
  else
    let number (exponent : Int) :=
      ofScientific format negative (Digit.value (whole ++ fraction)) (exponent - fraction.length)
    match afterFraction with
    | [] => some (number 0)
    | mark :: rest =>
      if mark = 'e' ∨ mark = 'E' then
        match rest with
        | '-' :: digits =>
          (Digit.ofText? digits).map fun digits => number (-(Digit.value digits : Int))
        | '+' :: digits => (Digit.ofText? digits).map fun digits => number (Digit.value digits)
        | digits => (Digit.ofText? digits).map fun digits => number (Digit.value digits)
      else none

/-- A number as it is commonly typed: a sign, then digits with an optional point
and exponent, or the name of an infinite or undefined number. -/
def ofText? (format : BinaryFormat) (text : String) : Option (Binary format) :=
  let (negative, unsigned) :=
    match text.toList with
    | '-' :: rest => (true, rest)
    | '+' :: rest => (false, rest)
    | rest => (false, rest)
  let name := loweredLetters unsigned
  if name = "nan" then some .nan
  else if name = "inf" ∨ name = "infinity" then some (.infinite negative)
  else readMagnitude format negative unsigned

end Binary

end ConsumerContract
