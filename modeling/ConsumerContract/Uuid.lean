/-
This file holds UUIDs and the layouts they are written in. A layout also has a
pattern that every UUID written in it satisfies.
-/

import ConsumerContract.Json.Printer

namespace ConsumerContract

/-- A universally unique identifier. -/
structure Uuid where
  bits : BitVec 128
  deriving DecidableEq, Repr, Inhabited

/-- The layouts of a generated UUID. -/
inductive UuidFormat where
  | simple
  | lowerCaseHyphenated
  | upperCaseHyphenated
  | urn
  deriving DecidableEq, Repr, Inhabited

namespace Uuid

/-- The 32 hexadecimal digits in order. -/
def digits (uuid : Uuid) : List Nat :=
  (List.range 32).map fun position => (uuid.bits.toNat / Nat.pow 16 (31 - position)) % 16

/-- The UUID of 32 hexadecimal digits. -/
def ofDigits (digits : List Nat) : Uuid :=
  ⟨BitVec.ofNat 128 (digits.foldl (fun number digit => 16 * number + digit) 0)⟩

/-- A UUID of version 4 from freely chosen numbers: the version and the variant
are fixed, every other digit is one of the numbers. -/
def ofDraws (draw : Nat → Nat) : Uuid :=
  ofDigits <| (List.range 32).map fun position =>
    if position = 12 then 4
    else if position = 16 then 8 + draw position % 4
    else draw position % 16

/-- The value of a hexadecimal digit. -/
def hexValue? (char : Char) : Option Nat :=
  if '0' ≤ char ∧ char ≤ '9' then some (char.toNat - '0'.toNat)
  else if 'a' ≤ char ∧ char ≤ 'f' then some (char.toNat - 'a'.toNat + 10)
  else if 'A' ≤ char ∧ char ≤ 'F' then some (char.toNat - 'A'.toNat + 10)
  else none

/-- A UUID written with or without hyphens. -/
def ofText? (text : String) : Option Uuid :=
  match (text.toList.filter (· ≠ '-')).mapM hexValue? with
  | some digits => if digits.length = 32 then some (ofDigits digits) else none
  | none => none

/-- All digits without separators. -/
def simpleText (uuid : Uuid) : List Char :=
  uuid.digits.map Json.hexDigit

/-- The digits in groups of 8, 4, 4, 4 and 12. -/
def hyphenatedText (uuid : Uuid) : List Char :=
  let digits := uuid.simpleText
  digits.take 8 ++ ['-'] ++ (digits.drop 8).take 4 ++ ['-'] ++ (digits.drop 12).take 4 ++ ['-'] ++
    (digits.drop 16).take 4 ++ ['-'] ++ digits.drop 20

end Uuid

namespace UuidFormat

/-- The name of a layout in a contract. -/
def name : UuidFormat → String
  | simple => "simple"
  | lowerCaseHyphenated => "lower-case-hyphenated"
  | upperCaseHyphenated => "upper-case-hyphenated"
  | urn => "URN"

/-- The layout with a name. -/
def ofName? (text : String) : Option UuidFormat :=
  [simple, lowerCaseHyphenated, upperCaseHyphenated, urn].find? (·.name = text)

/-- The name of a layout in messages. -/
def label : UuidFormat → String
  | simple => "simple"
  | lowerCaseHyphenated => "lower-case hyphenated"
  | upperCaseHyphenated => "upper-case hyphenated"
  | urn => "URN"

/-- Hyphenated digits of one class as a pattern. -/
def hyphenatedPattern (digit : String) : String :=
  digit ++ "\x7b8\x7d-" ++ digit ++ "\x7b4\x7d-" ++ digit ++ "\x7b4\x7d-" ++ digit ++
    "\x7b4\x7d-" ++ digit ++ "\x7b12\x7d$"

/-- A pattern that every UUID in this layout satisfies. -/
def pattern : UuidFormat → String
  | simple => "^[0-9a-fA-F]\x7b32\x7d$"
  | lowerCaseHyphenated => "^" ++ hyphenatedPattern "[0-9a-f]"
  | upperCaseHyphenated => "^" ++ hyphenatedPattern "[0-9A-F]"
  | urn => "^urn:uuid:" ++ hyphenatedPattern "[0-9a-f]"

/-- A UUID in this layout. -/
def render (format : UuidFormat) (uuid : Uuid) : String :=
  match format with
  | simple => String.ofList uuid.simpleText
  | lowerCaseHyphenated => String.ofList uuid.hyphenatedText
  | upperCaseHyphenated => String.ofList (uuid.hyphenatedText.map Char.toUpper)
  | urn => "urn:uuid:" ++ String.ofList uuid.hyphenatedText

end UuidFormat

end ConsumerContract
