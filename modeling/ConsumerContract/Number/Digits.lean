/-
This file holds decimal digits: reading them into a natural number, writing a
number with them, and counting them. The number types of the library share
these functions, so that each of them writes whole numbers in one way.
-/

namespace ConsumerContract

/-- A decimal digit. -/
abbrev Digit := Fin 10

namespace Digit

/-- The digit 0. -/
def zero : Digit := ⟨0, by decide⟩

/-- The digit that a character stands for; only ASCII digits count. -/
def ofChar? (char : Char) : Option Digit :=
  if h : '0' ≤ char ∧ char ≤ '9' then
    some ⟨char.toNat - '0'.toNat, by
      have below : char.toNat ≤ '9'.toNat := h.2
      have nine : '9'.toNat = 57 := rfl
      have zero : '0'.toNat = 48 := rfl
      omega⟩
  else none

/-- The character that stands for a digit. -/
def toChar (digit : Digit) : Char :=
  Char.ofNat ('0'.toNat + digit.val)

/-- The number written by digits, most significant first, continuing from `start`. -/
def valueFrom (start : Nat) (digits : List Digit) : Nat :=
  digits.foldl (fun number digit => 10 * number + digit.val) start

/-- The number written by digits, most significant first; no digits write zero. -/
def value (digits : List Digit) : Nat :=
  valueFrom 0 digits

/-- The digits of a number, most significant first; zero has no digits here. -/
def significant (number : Nat) : List Digit :=
  go number []
where
  /-- Puts the digits of `number` in front of those already found. -/
  go (number : Nat) (found : List Digit) : List Digit :=
    if h : number = 0 then found
    else go (number / 10) (⟨number % 10, Nat.mod_lt _ (by decide)⟩ :: found)
  termination_by number
  decreasing_by exact Nat.div_lt_self (Nat.pos_of_ne_zero h) (by decide)

/-- The digits of a number, most significant first; zero is the digit 0. -/
def ofNat (number : Nat) : List Digit :=
  if number = 0 then [zero] else significant number

/-- Digits as text. -/
def text (digits : List Digit) : String :=
  String.ofList (digits.map toChar)

/-- The longest run of digits in front of a text, and what follows it. -/
def span : List Char → List Digit × List Char
  | [] => ([], [])
  | char :: rest =>
    match ofChar? char with
    | some digit => let (digits, after) := span rest; (digit :: digits, after)
    | none => ([], char :: rest)

/-- A text of digits alone; the empty text is none. -/
def ofText? (text : List Char) : Option (List Digit) :=
  match span text with
  | ([], _) => none
  | (digits, []) => some digits
  | _ => none

end Digit

/-- A whole number in decimal digits. -/
def decimalText (number : Nat) : String :=
  Digit.text (Digit.ofNat number)

/-- A whole number in decimal digits, with zeros in front up to `width` places. -/
def paddedText (width number : Nat) : String :=
  let digits := Digit.ofNat number
  Digit.text (List.replicate (width - digits.length) .zero ++ digits)

/-- A signed number in decimal digits; only a negative one has a sign. -/
def signedText (number : Int) : String :=
  if number < 0 then "-" ++ decimalText number.natAbs else decimalText number.natAbs

end ConsumerContract
