/-
This file finds the fewest decimal digits that read back as a given
floating-point number, and of those the nearest to it. The reals that round to
a number form an interval around it, whose ends belong to it when the
significand is even. On the grid of the decimals with a given count of digits
only the two neighbours of the number can lie in the interval first, so it is
enough to test these two, for one digit, two digits and so on.
-/

import ConsumerContract.Number.Binary

namespace ConsumerContract

/-- Which of two equally near decimals is chosen. -/
inductive TieRule where
  | toEven
  | up
  deriving DecidableEq, Repr

/-- `digits * 10 ^ exponent`, with `digits` free of trailing zeros. -/
structure ShortestDecimal where
  digits : Nat
  exponent : Int
  deriving DecidableEq, Repr, Inhabited

/-- The reals that round to one number, as fractions over one denominator: the
number itself, the two ends, and whether the ends belong to it. -/
structure RoundingInterval where
  value : Nat
  lower : Nat
  upper : Nat
  denominator : Nat
  closed : Bool
  deriving Repr

namespace RoundingInterval

/-- The interval of a positive number. Below a power of two the numbers lie
twice as dense, so the lower end is only half as far. -/
def ofFinite (format : BinaryFormat) (significand power : Nat) : RoundingInterval :=
  let lowerGap := if significand = Nat.pow 2 (format.precision - 1) ∧ 0 < power then 1 else 2
  { value := 4 * significand * Nat.pow 2 power
    lower := (4 * significand - lowerGap) * Nat.pow 2 power
    upper := (4 * significand + 2) * Nat.pow 2 power
    denominator := 4 * Nat.pow 2 format.unit
    closed := significand % 2 = 0 }

/-- The interval multiplied by `10 ^ shift`. -/
def scaled (interval : RoundingInterval) (shift : Int) : RoundingInterval :=
  if shift < 0 then
    { interval with denominator := interval.denominator * Nat.pow 10 shift.natAbs }
  else
    let factor := Nat.pow 10 shift.natAbs
    { interval with
      value := interval.value * factor
      lower := interval.lower * factor
      upper := interval.upper * factor }

/-- Whether a natural number lies in the interval. -/
def holds (interval : RoundingInterval) (candidate : Nat) : Bool :=
  let scaledCandidate := candidate * interval.denominator
  if interval.closed then
    interval.lower ≤ scaledCandidate && scaledCandidate ≤ interval.upper
  else interval.lower < scaledCandidate && scaledCandidate < interval.upper

/-- The neighbour of the value that lies in the interval, the nearer if both do. -/
def neighbour? (interval : RoundingInterval) (tie : TieRule) : Option Nat :=
  let below := interval.value / interval.denominator
  let rest := interval.value % interval.denominator
  match interval.holds below, interval.holds (below + 1) with
  | true, false => some below
  | false, true => some (below + 1)
  | false, false => none
  | true, true =>
    if 2 * rest < interval.denominator then some below
    else if interval.denominator < 2 * rest then some (below + 1)
    else match tie with
      | .up => some (below + 1)
      | .toEven => some (if below % 2 = 0 then below else below + 1)

/-- The least `exponent` from `start` on with `value < 10 ^ exponent`. -/
def magnitudeFrom (interval : RoundingInterval) (start : Int) : Nat → Int
  | 0 => start
  | tries + 1 =>
    let atStart := interval.scaled (-start)
    if atStart.value < atStart.denominator then start
    else magnitudeFrom interval (start + 1) tries

/-- The least `exponent` with `value < 10 ^ exponent`. The lengths of the value
and the denominator in bits give a first guess that is at most four too small. -/
def magnitude (interval : RoundingInterval) : Int :=
  let bits : Int := (interval.value.log2 : Int) - interval.denominator.log2
  interval.magnitudeFrom ((bits - 1) * 30103 / 100000) 5

/-- Tries the grids of `count` digits and more. -/
def shortestFrom (interval : RoundingInterval) (tie : TieRule) (magnitude : Int) :
    Nat → Nat → ShortestDecimal
  | _, 0 => ⟨0, 0⟩
  | count, tries + 1 =>
    match (interval.scaled (count - magnitude)).neighbour? tie with
    | some digits => ⟨digits, magnitude - count⟩
    | none => shortestFrom interval tie magnitude (count + 1) tries

end RoundingInterval

namespace ShortestDecimal

/-- The same decimal without zeros at the end of its digits. -/
def withoutZeros (decimal : ShortestDecimal) : ShortestDecimal :=
  go decimal.digits decimal.exponent
where
  /-- Moves zeros at the end of `digits` into the exponent. -/
  go (digits : Nat) (exponent : Int) : ShortestDecimal :=
    if h : digits ≠ 0 ∧ digits % 10 = 0 then go (digits / 10) (exponent + 1)
    else ⟨digits, exponent⟩
  termination_by digits
  decreasing_by exact Nat.div_lt_self (Nat.pos_of_ne_zero h.1) (by decide)

/-- The fewest digits that read back as a finite number. Seventeen always suffice
for 64 bits. -/
def ofFinite (format : BinaryFormat) (tie : TieRule) (significand power : Nat) :
    ShortestDecimal :=
  if significand = 0 then ⟨0, 0⟩
  else
    let interval := RoundingInterval.ofFinite format significand power
    (interval.shortestFrom tie interval.magnitude 1 17).withoutZeros

end ShortestDecimal

end ConsumerContract
