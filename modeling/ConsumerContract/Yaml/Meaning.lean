/-
This file says what plain scalars stand for: nothing, a truth value, a number or
their own text. A scalar in quotes always stands for its text.
-/

import ConsumerContract.Character.Quoted
import ConsumerContract.Number.Layout

namespace ConsumerContract.Yaml

/-- What a plain scalar stands for. -/
inductive Meaning where
  | null
  | bool (value : Bool)
  | integer (value : Int)
  | float (value : Binary .double)
  | text
  deriving Repr, Inhabited

namespace Meaning

/-! ### Whole numbers -/

/-- The value of a digit in a base. -/
def digit? (base : Nat) (char : Char) : Option Nat :=
  let value :=
    if char.isDigit then char.toNat - '0'.toNat
    else if 'a' ≤ char && char ≤ 'f' then char.toNat - 'a'.toNat + 10
    else if 'A' ≤ char && char ≤ 'F' then char.toNat - 'A'.toNat + 10
    else base
  if value < base then some value else none

/-- The number that digits write; at least one is needed. -/
def number? (base : Nat) (digits : List Char) : Option Nat :=
  if digits.isEmpty then none
  else (digits.mapM (digit? base)).map fun values =>
    values.foldl (fun number value => base * number + value) 0

/-- Digits with a zero in front of others are no number. -/
def isZeroPadded : List Char → Bool
  | '0' :: rest => !rest.isEmpty && rest.all Char.isDigit
  | _ => false

/-- A number without its sign, in the base that its first letters name. -/
def unsigned? : List Char → Option Nat
  | '0' :: 'x' :: digits => number? 16 digits
  | '0' :: 'o' :: digits => number? 8 digits
  | '0' :: 'b' :: digits => number? 2 digits
  | digits => if isZeroPadded digits then none else number? 10 digits

/-- The value of a whole number; there are none beyond 128 bits. -/
def integer? : List Char → Option Int
  | '-' :: digits =>
    (unsigned? digits).bind fun number =>
      if number ≤ 0x80000000000000000000000000000000 then some (-(number : Int)) else none
  | '+' :: digits | digits =>
    (unsigned? digits).bind fun number =>
      if number < 0x100000000000000000000000000000000 then some (number : Int) else none

/-! ### All scalars -/

/-- The value of a number with a point or an exponent. -/
def float? (text : String) : Option (Binary .double) :=
  let unsigned := if text.startsWith "+" then (text.drop 1).toString else text
  if [".inf", ".Inf", ".INF"].contains unsigned then some (.infinite false)
  else if ["-.inf", "-.Inf", "-.INF"].contains text then some (.infinite true)
  else if [".nan", ".NaN", ".NAN"].contains text then some .nan
  else if unsigned.startsWith "+" ∨ (text.startsWith "+" ∧ unsigned.startsWith "-") then none
  else (Binary.ofText? .double unsigned).filter Binary.isFinite

/-- What the text of a plain scalar stands for. -/
def ofText (text : String) : Meaning :=
  let unsigned := text.toList.dropWhile fun char => char = '-' ∨ char = '+'
  if ["", "~", "null", "Null", "NULL"].contains text then null
  else if ["true", "True", "TRUE"].contains text then bool true
  else if ["false", "False", "FALSE"].contains text then bool false
  else
    match integer? text.toList with
    | some value => integer value
    | none =>
      if isZeroPadded unsigned then .text
      else (float? text).elim .text float

/-- A whole number in messages, by the size of the word it needs. -/
def integerText (value : Int) : String :=
  let shown := "integer `" ++ signedText value ++ "`"
  if Int64.minValue.toInt ≤ value ∧ value < UInt64.size then shown
  else if value < 0 then shown ++ " as i128"
  else shown ++ " as u128"

/-- A number in messages; a whole one still has a point. -/
def floatText (value : Binary .double) : String :=
  let plain := value.text
  "floating point `" ++
    (if value.isFinite && !plain.toList.contains '.' then plain ++ ".0" else plain) ++ "`"

end Meaning

/-- What a scalar is, in messages. -/
def scalarFound (isPlain : Bool) (text : String) : String :=
  match if isPlain then Meaning.ofText text else .text with
  | .null => "unit value"
  | .bool value => if value then "boolean `true`" else "boolean `false`"
  | .integer value => Meaning.integerText value
  | .float value => Meaning.floatText value
  | .text => "string " ++ Character.quoted text

/-- The number of a plain scalar without a minus sign that fits in a 64-bit word. -/
def scalarWord? (isPlain : Bool) (text : String) : Option Nat :=
  match if isPlain then Meaning.ofText text else .text with
  | .integer value =>
    if 0 ≤ value ∧ value < UInt64.size ∧ !text.startsWith "-" then some value.toNat else none
  | _ => none

end ConsumerContract.Yaml
