/-
This file says that a whole number can be read back from its decimal text, so
that different numbers have different texts.
-/

import ConsumerContract.Number.Digits

namespace ConsumerContract

namespace Digit

theorem valueFrom_go (number : Nat) (found : List Digit) :
    valueFrom 0 (significant.go number found) = valueFrom number found := by
  induction number using Nat.strongRecOn generalizing found with
  | ind number inductionHypothesis =>
    rw [significant.go]
    split
    · rename_i zero
      rw [zero]
    · rename_i positive
      have smaller : number / 10 < number :=
        Nat.div_lt_self (Nat.pos_of_ne_zero positive) (by decide)
      have whole : 10 * (number / 10) + number % 10 = number := Nat.div_add_mod number 10
      rw [inductionHypothesis _ smaller, valueFrom, List.foldl_cons, ← valueFrom, whole]

/-- The digits of a number write that number. -/
theorem value_ofNat (number : Nat) : value (ofNat number) = number := by
  unfold ofNat
  split
  · rename_i zero
    rw [zero]
    rfl
  · exact valueFrom_go number []

theorem ofNat_injective {first second : Nat} (same : ofNat first = ofNat second) :
    first = second := by
  rw [← value_ofNat first, same, value_ofNat]

theorem toChar_injective :
    ∀ first second : Digit, toChar first = toChar second → first = second := by
  decide

/-- There is at least one digit. -/
theorem ofNat_ne_nil (number : Nat) : ofNat number ≠ [] := by
  intro none
  have read := value_ofNat number
  rw [none] at read
  subst read
  cases none

end Digit

theorem toList_decimalText (number : Nat) :
    (decimalText number).toList = (Digit.ofNat number).map Digit.toChar :=
  String.toList_ofList

end ConsumerContract
