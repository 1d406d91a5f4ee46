/-
This file says which number a numeral stands for, and follows that number through
the number types of the library. A numeral that is read as an exact decimal and
written again may change its layout, but it stands for the same number; the
shortest decimal of a floating-point number is laid out in two ways, and both
stand for that decimal. All layouts cut the digits of one natural number into a
whole part, a fraction and an exponent, so one fact about such a cut carries them.
-/

import ConsumerContract.Number.Decimal
import ConsumerContract.Number.Layout
import ConsumerContract.Proofs.Digits
import Mathlib.Algebra.Field.Rat
import Mathlib.Algebra.GroupWithZero.Basic
import Mathlib.Tactic.NormNum
import Mathlib.Tactic.Ring

namespace ConsumerContract

/-! ### Digits in a row -/

namespace Digit

theorem valueFrom_append (start : Nat) (first second : List Digit) :
    valueFrom start (first ++ second) = valueFrom (valueFrom start first) second :=
  List.foldl_append

/-- Digits may be cut anywhere: reading the rest goes on from the number of the first part. -/
theorem valueFrom_take_drop (count : Nat) (digits : List Digit) :
    valueFrom (value (digits.take count)) (digits.drop count) = value digits := by
  rw [value, ← valueFrom_append, List.take_append_drop]
  rfl

theorem value_replicate_zero (count : Nat) (digits : List Digit) :
    value (List.replicate count zero ++ digits) = value digits := by
  induction count with
  | zero => rfl
  | succ count inductionHypothesis => exact inductionHypothesis

/-- Digits with zeros in front can be cut so that so many places lie behind the point. -/
theorem valueFrom_padded (digits : List Digit) (places : Nat) :
    let padded := List.replicate (places + 1 - digits.length) zero ++ digits
    valueFrom (value (padded.take (padded.length - places))) (padded.drop (padded.length - places))
        = value digits ∧
      (padded.drop (padded.length - places)).length = places := by
  intro padded
  have enough : padded.length = places + 1 - digits.length + digits.length := by
    rw [List.length_append, List.length_replicate]
  refine ⟨(valueFrom_take_drop _ _).trans (value_replicate_zero _ _), ?_⟩
  rw [List.length_drop]
  omega

end Digit

/-! ### The numbers of the number types -/

/-- A magnitude with a sign. -/
def withSign (negative : Bool) (magnitude : ℚ) : ℚ :=
  if negative then -magnitude else magnitude

theorem withSign_inj {negative : Bool} {first second : ℚ} :
    withSign negative first = withSign negative second ↔ first = second := by
  cases negative with
  | true => exact neg_inj
  | false => exact Iff.rfl

theorem withSign_natAbs (number : Int) (factor : ℚ) :
    withSign (number < 0) (number.natAbs * factor) = number * factor := by
  rw [← Int.cast_natCast]
  by_cases negative : number < 0
  · have magnitude : (number.natAbs : Int) = -number := by omega
    rw [withSign, if_pos (decide_eq_true negative), magnitude, Int.cast_neg, neg_mul, neg_neg]
  · have magnitude : (number.natAbs : Int) = number := by omega
    rw [withSign, if_neg (by simpa using negative), magnitude]

/-- The number that a numeral stands for. -/
def Numeral.toRat (numeral : Numeral) : ℚ :=
  withSign numeral.negative
    (numeral.unscaled * 10 ^ (numeral.exponentValue - numeral.fraction.length))

/-- The number that an exact decimal is. -/
def Decimal.toRat (decimal : Decimal) : ℚ :=
  decimal.unscaled * 10 ^ (-decimal.scale)

/-- The number that shortest digits are. -/
def ShortestDecimal.toRat (decimal : ShortestDecimal) : ℚ :=
  decimal.digits * 10 ^ decimal.exponent

/-! ### Numerals of integers and decimals -/

namespace Numeral

theorem toInt?_ofInt (number : Int) : (ofInt number).toInt? = some number := by
  have whole : (ofInt number).isWhole = true := rfl
  rw [toInt?, if_pos whole, ofInt]
  by_cases negative : number < 0
  · rw [if_pos (decide_eq_true negative), Int.natCast_natAbs, abs_of_neg negative, neg_neg]
  · rw [if_neg (by simpa using negative), Int.natCast_natAbs, abs_of_nonneg (not_lt.mp negative)]

theorem toRat_ofInt (number : Int) : (ofInt number).toRat = number := by
  have sign := withSign_natAbs number 1
  rw [mul_one, mul_one] at sign
  rw [← sign, toRat, ofInt, unscaled, exponentValue]
  simp [Digit.valueFrom]

/-- The integer that a whole numeral is read as is the number it stands for. -/
theorem toRat_of_toInt? {numeral : Numeral} {number : Int}
    (read : numeral.toInt? = some number) : numeral.toRat = number := by
  unfold toInt? at read
  split at read
  · rename_i whole
    rw [isWhole, Bool.and_eq_true, List.isEmpty_iff, Option.isNone_iff_eq_none] at whole
    rw [← Option.some.inj read, toRat, unscaled, exponentValue, whole.1, whole.2]
    cases numeral.negative <;> simp [withSign, Digit.valueFrom]
  · cases read

end Numeral

theorem Exponent.toInt_ofInt (exponent : Int) :
    Exponent.toInt ⟨exponent < 0, 0, exponent.natAbs⟩ = exponent := by
  rw [toInt]
  by_cases negative : exponent < 0
  · have magnitude : (exponent.natAbs : Int) = -exponent := by omega
    rw [if_pos (decide_eq_true negative), magnitude, neg_neg]
  · have magnitude : (exponent.natAbs : Int) = exponent := by omega
    rw [if_neg (by simpa using negative), magnitude]

/-- One digit in front of the point and an exponent. -/
theorem Numeral.toRat_scientific (negative : Bool) (number : Nat) (leading : Int) :
    let digits := Digit.ofNat number
    Numeral.toRat
        { negative
          whole := Digit.value (digits.take 1)
          fraction := digits.drop 1
          exponent := some ⟨leading < 0, 0, leading.natAbs⟩ } =
      withSign negative (number * 10 ^ (leading + 1 - digits.length)) := by
  intro digits
  have some : 1 ≤ digits.length := List.length_pos_iff.mpr (Digit.ofNat_ne_nil number)
  have behind : leading - (digits.drop 1).length = leading + 1 - digits.length := by
    rw [List.length_drop]
    omega
  rw [toRat, unscaled, exponentValue]
  simp only [Digit.valueFrom_take_drop, Exponent.toInt_ofInt, behind, digits, Digit.value_ofNat]

/-- Digits around a point stand for the shortest decimal they were laid out from. -/
theorem Binary.toRat_positional (negative : Bool) (decimal : ShortestDecimal) :
    Numeral.toRat
        { negative, whole := (positional decimal).1, fraction := (positional decimal).2 } =
      withSign negative decimal.toRat := by
  unfold positional
  by_cases whole : 0 ≤ decimal.exponent
  · have exponent : (decimal.exponent.natAbs : Int) = decimal.exponent := by omega
    rw [if_pos whole, Numeral.toRat, Numeral.unscaled, Numeral.exponentValue,
      ShortestDecimal.toRat, ← exponent, zpow_natCast, Int.natAbs_natCast]
    simp only [Digit.valueFrom, List.foldl_nil, List.length_nil, Nat.cast_zero, sub_zero, zpow_zero,
      mul_one, Nat.cast_mul, Nat.pow_eq, Nat.cast_pow, Nat.cast_ofNat]
  · have exponent : (0 : Int) - decimal.exponent.natAbs = decimal.exponent := by omega
    rw [if_neg whole]
    obtain ⟨digits, places⟩ :=
      Digit.valueFrom_padded (Digit.ofNat decimal.digits) decimal.exponent.natAbs
    rw [Numeral.toRat, Numeral.unscaled, Numeral.exponentValue, ShortestDecimal.toRat]
    simp only [digits, places, exponent, Digit.value_ofNat]

namespace Decimal

/-- A decimal is laid out around a point in the same way as shortest digits. -/
theorem numeral_eq_positional {decimal : Decimal} (nonzero : decimal.unscaled ≠ 0)
    (few : ¬ decimal.scale - (Digit.ofNat decimal.unscaled.natAbs).length > leadingZeroLimit)
    (short : ¬ -decimal.scale > trailingZeroLimit) :
    let layout := Binary.positional ⟨decimal.unscaled.natAbs, -decimal.scale⟩
    decimal.numeral =
      { negative := decimal.unscaled < 0, whole := layout.1, fraction := layout.2 } := by
  unfold numeral Binary.positional
  simp only [if_neg nonzero, if_neg few, if_neg short, Int.natAbs_neg]
  by_cases whole : decimal.scale ≤ 0
  · rw [if_pos whole, if_pos (by omega)]
  · rw [if_neg whole, if_neg (by omega)]

/-- Writing a decimal keeps its number. -/
theorem toRat_numeral (decimal : Decimal) : decimal.numeral.toRat = decimal.toRat := by
  have signed := withSign_natAbs decimal.unscaled (10 ^ (-decimal.scale))
  rw [toRat, ← signed]
  by_cases zero : decimal.unscaled = 0
  · rw [numeral, if_pos zero, zero]
    simp [Numeral.toRat, Numeral.unscaled, Digit.valueFrom, withSign]
  by_cases many :
      decimal.scale - (Digit.ofNat decimal.unscaled.natAbs).length > leadingZeroLimit
  · have exponent (count : Int) : count - 1 - decimal.scale + 1 - count = -decimal.scale := by
      omega
    rw [numeral, if_neg zero, if_pos many, Numeral.toRat_scientific, exponent]
  by_cases long : -decimal.scale > trailingZeroLimit
  · have exponent : (decimal.scale.natAbs : Int) = -decimal.scale := by
      unfold trailingZeroLimit at long
      omega
    rw [numeral, if_neg zero, if_neg many, if_pos long, Numeral.toRat, Numeral.unscaled,
      Numeral.exponentValue]
    simp only [Exponent.toInt, Bool.false_eq_true, if_false, exponent, Digit.valueFrom,
      List.foldl_nil, List.length_nil, Nat.cast_zero, sub_zero]
  · rw [numeral_eq_positional zero many long, Binary.toRat_positional]
    rfl

/-- The exact decimal that a numeral is read as is the number it stands for. -/
theorem toRat_of_ofNumeral? {numeral : Numeral} {decimal : Decimal}
    (read : ofNumeral? numeral = some decimal) : decimal.toRat = numeral.toRat := by
  simp only [ofNumeral?, ofDigits?, Option.ite_none_right_eq_some, Option.some.injEq] at read
  obtain ⟨-, rfl⟩ := read
  rw [toRat, Numeral.toRat, neg_sub]
  cases numeral.negative with
  | true => simp [withSign]
  | false => simp [withSign]

end Decimal

/-! ### Numerals of floating-point numbers -/

/-- The JSON numeral of shortest digits stands for them. -/
theorem Binary.toRat_numeralOf (negative : Bool) (decimal : ShortestDecimal) :
    (numeralOf negative decimal).toRat = withSign negative decimal.toRat := by
  by_cases placed : decimal.digits = 0 ∨
      isPositional (decimal.exponent + (Digit.ofNat decimal.digits).length - 1) = true
  · simp only [numeralOf, if_pos placed]
    rw [← toRat_positional]
    rcases positional decimal with ⟨whole, fraction⟩
    cases fraction with
    | nil =>
      -- The zero behind the point of a whole number is one more digit and one more place.
      simp only [List.isEmpty_nil, if_true, Numeral.toRat, Numeral.unscaled,
        Numeral.exponentValue, Digit.valueFrom, List.foldl_cons, List.foldl_nil, Digit.zero,
        List.length_singleton, List.length_nil, withSign_inj]
      norm_num
      ring
    | cons digit rest => rfl
  · have exponent (count : Int) : decimal.exponent + count - 1 + 1 - count = decimal.exponent := by
      omega
    simp only [numeralOf, if_neg placed]
    rw [Numeral.toRat_scientific, exponent, ShortestDecimal.toRat]

/-! ### Texts of numerals -/

namespace Digit

theorem ofChar?_toChar : ∀ digit : Digit, ofChar? (toChar digit) = some digit := by
  decide

/-- Reading digits gives back the digits that were written, if none follows them. -/
theorem span_append (digits : List Digit) {rest : List Char}
    (ends : ∀ char ∈ rest.head?, ofChar? char = none) :
    span (digits.map toChar ++ rest) = (digits, rest) := by
  induction digits with
  | nil =>
    cases rest with
    | nil => rfl
    | cons char rest =>
      rw [List.map_nil, List.nil_append, span, ends char rfl]
  | cons digit digits inductionHypothesis =>
    rw [List.map_cons, List.cons_append, span, ofChar?_toChar, inductionHypothesis]

theorem append_inj {first second : List Digit} {rest rest' : List Char}
    (ends : ∀ char ∈ rest.head?, ofChar? char = none)
    (ends' : ∀ char ∈ rest'.head?, ofChar? char = none)
    (same : first.map toChar ++ rest = second.map toChar ++ rest') :
    first = second ∧ rest = rest' := by
  have read := congrArg span same
  rw [span_append first ends, span_append second ends'] at read
  exact Prod.mk.inj read

end Digit

namespace Numeral

/-- The characters of an exponent. -/
def exponentChars : Option Exponent → List Char
  | none => []
  | some exponent =>
    'e' :: (if exponent.negative then '-' else '+') :: exponent.digits.map Digit.toChar

/-- The characters of a numeral behind its whole part. -/
def tailChars (numeral : Numeral) : List Char :=
  (if numeral.fraction.isEmpty then [] else '.' :: numeral.fraction.map Digit.toChar) ++
    exponentChars numeral.exponent

theorem toList_text (numeral : Numeral) :
    numeral.text.toList =
      (if numeral.negative then ['-'] else []) ++
        ((Digit.ofNat numeral.whole).map Digit.toChar ++ numeral.tailChars) := by
  obtain ⟨negative, whole, fraction, exponent⟩ := numeral
  cases negative <;> cases fraction <;> rcases exponent with _ | ⟨_ | _, zeros, magnitude⟩ <;>
    simp [text, tailChars, exponentChars, toList_decimalText, Digit.text]

theorem head_exponentChars (exponent : Option Exponent) :
    ∀ char ∈ (exponentChars exponent).head?, Digit.ofChar? char = none := by
  cases exponent with
  | none => exact fun char member => nomatch member
  | some exponent =>
    intro char member
    rw [← Option.some.inj member]
    decide

/-- What follows the whole part is a point, an exponent or nothing. -/
theorem head_tailChars (numeral : Numeral) :
    ∀ char ∈ numeral.tailChars.head?, Digit.ofChar? char = none := by
  cases behind : numeral.fraction with
  | nil =>
    rw [tailChars, behind]
    exact head_exponentChars numeral.exponent
  | cons digit rest =>
    intro char member
    rw [tailChars, behind] at member
    rw [← Option.some.inj member]
    decide

/-- A negative numeral starts with its sign, any other one with a digit. -/
theorem negative_of_text {first second : Numeral} (same : first.text = second.text)
    (negative : first.negative = true) : second.negative = true := by
  have chars := congrArg String.toList same
  rw [toList_text, toList_text, negative] at chars
  cases unsigned : second.negative with
  | true => rfl
  | false =>
    rw [unsigned] at chars
    obtain ⟨digit, digits, whole⟩ :=
      List.exists_cons_of_ne_nil (Digit.ofNat_ne_nil second.whole)
    rw [whole] at chars
    have sign : '-' = Digit.toChar digit := (List.cons.inj chars).1
    have noDigit : Digit.ofChar? '-' = none := by decide
    rw [sign, Digit.ofChar?_toChar] at noDigit
    cases noDigit

theorem tail_of_text {first second : Numeral} (same : first.text = second.text) :
    first.negative = second.negative ∧ first.whole = second.whole ∧
      first.tailChars = second.tailChars := by
  have sign : first.negative = second.negative :=
    Bool.eq_iff_iff.mpr ⟨negative_of_text same, negative_of_text same.symm⟩
  have chars := congrArg String.toList same
  rw [toList_text, toList_text, sign] at chars
  obtain ⟨whole, tail⟩ := Digit.append_inj first.head_tailChars second.head_tailChars
    (List.append_cancel_left chars)
  exact ⟨sign, Digit.ofNat_injective whole, tail⟩

/-- A numeral without an exponent is the only one with its text. -/
theorem eq_of_text {first second : Numeral} (plain : first.exponent = none)
    (same : first.text = second.text) : first = second := by
  obtain ⟨sign, whole, tail⟩ := tail_of_text same
  obtain ⟨negative, number, fraction, exponent⟩ := first
  obtain ⟨negative', number', fraction', exponent'⟩ := second
  obtain rfl : exponent = none := plain
  obtain rfl : negative = negative' := sign
  obtain rfl : number = number' := whole
  cases fraction with
  | nil =>
    cases fraction' with
    | nil =>
      cases exponent' with
      | none => rfl
      | some exponent => cases tail
    | cons digit rest => cases tail
  | cons digit rest =>
    cases fraction' with
    | nil =>
      cases exponent' with
      | none => cases tail
      | some exponent => exact absurd (List.cons.inj tail).1 (by decide)
    | cons digit' rest' =>
      have digits : (digit :: rest).map Digit.toChar ++ exponentChars none =
          (digit' :: rest').map Digit.toChar ++ exponentChars exponent' :=
        (List.cons.inj tail).2
      obtain ⟨sameDigits, behind⟩ :=
        Digit.append_inj (head_exponentChars none) (head_exponentChars exponent') digits
      cases exponent' with
      | none => rw [sameDigits]
      | some exponent => cases behind

end Numeral

/-! ### Floating-point numbers with two decimals -/

/-- The number lies in the middle between two natural numbers. -/
def RoundingInterval.IsHalfway (interval : RoundingInterval) : Prop :=
  2 * (interval.value % interval.denominator) = interval.denominator

namespace RoundingInterval

theorem neighbour?_eq {interval : RoundingInterval} (apart : ¬ interval.IsHalfway) :
    interval.neighbour? .up = interval.neighbour? .toEven := by
  rcases Nat.lt_or_gt_of_ne apart with below | above
  · simp only [neighbour?, if_pos below]
  · simp only [neighbour?, if_neg (Nat.lt_asymm above), if_pos above]

theorem shortestFrom_eq {interval : RoundingInterval}
    (apart : ∀ shift, ¬ (interval.scaled shift).IsHalfway) (magnitude : Int) (count tries : Nat) :
    interval.shortestFrom .up magnitude count tries =
      interval.shortestFrom .toEven magnitude count tries := by
  induction tries generalizing count with
  | zero => rfl
  | succ tries inductionHypothesis =>
    rw [shortestFrom, shortestFrom, neighbour?_eq (apart _), inductionHypothesis]

end RoundingInterval

namespace Binary

variable {format : BinaryFormat}

/-- The plain text and the JSON numeral of the number stand for one decimal. -/
def WritesOneDecimal : Binary format → Prop
  | finite _ significand power =>
    (ShortestDecimal.ofFinite format .up significand power).toRat =
      (ShortestDecimal.ofFinite format .toEven significand power).toRat
  | _ => True

/-- The two layouts can only differ for a number that lies in the middle between two decimals. -/
theorem writesOneDecimal_of_apart (negative : Bool) {significand power : Nat}
    (apart : ∀ shift,
      ¬ ((RoundingInterval.ofFinite format significand power).scaled shift).IsHalfway) :
    (finite negative significand power : Binary format).WritesOneDecimal := by
  rw [WritesOneDecimal, ShortestDecimal.ofFinite, ShortestDecimal.ofFinite]
  simp only [RoundingInterval.shortestFrom_eq apart]

/-- A number that has the text of a numeral is written as a numeral that stands for the same
number, if it writes one decimal. -/
theorem toRat_eq_iff {number : Binary format} {read written : Numeral}
    (reads : number.text = read.text) (writes : number.numeral? = some written) :
    written.toRat = read.toRat ↔ number.WritesOneDecimal := by
  cases number with
  | finite negative significand power =>
    have plain : (finite negative significand power : Binary format).text =
        Numeral.text
          { negative
            whole := (positional (.ofFinite format .up significand power)).1
            fraction := (positional (.ofFinite format .up significand power)).2 } := by
      simp only [text, Numeral.text, String.append_empty]
    rw [← Numeral.eq_of_text rfl (plain.symm.trans reads), ← Option.some.inj writes,
      toRat_positional, toRat_numeralOf, withSign_inj, eq_comm, WritesOneDecimal]
  | nan => cases writes
  | infinite negative => cases writes

end Binary

end ConsumerContract
