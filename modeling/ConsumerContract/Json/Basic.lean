/-
This file holds JSON values. An object is a list of members in the order in
which they are written: a parsed object and a compiled mapping are in key
order, a record keeps the order of its fields. Numbers are numerals, so a value
that is read and written again keeps its digits.
-/

import ConsumerContract.Keyed
import ConsumerContract.Number.Numeral

namespace ConsumerContract

/-- A JSON value. -/
inductive Json where
  | null
  | bool (value : Bool)
  | number (numeral : Numeral)
  | string (text : String)
  | array (items : List Json)
  | object (members : List (String × Json))
  deriving Repr, Inhabited

namespace Json

/-- A whole number. -/
def ofNat (number : Nat) : Json :=
  .number (.ofNat number)

/-- A signed whole number. -/
def ofInt (number : Int) : Json :=
  .number (.ofInt number)

/-- The text or null. -/
def ofText? : Option String → Json
  | none => .null
  | some text => .string text

/-- The text of a string. -/
def text? : Json → Option String
  | .string text => some text
  | _ => none

/-- The items of an array. -/
def items? : Json → Option (List Json)
  | .array items => some items
  | _ => none

/-- The members of an object. -/
def members? : Json → Option (List (String × Json))
  | .object members => some members
  | _ => none

/-- The member of an object; anything else has no members. -/
def member? (key : String) : Json → Option Json
  | .object members => Keyed.find? key members
  | _ => none

/-- The number of a numeral that fits in a signed 64-bit word. -/
def toInt64? : Json → Option Int64
  | .number numeral => numeral.toInt64?
  | _ => none

/-- The number of a numeral without a sign that fits in a 64-bit word. -/
def toUInt64? : Json → Option UInt64
  | .number numeral => numeral.toUInt64?
  | _ => none

/-- A member that is left out if it has no value. -/
def optionalMember (key : String) : Option Json → List (String × Json)
  | none => []
  | some value => [(key, value)]

end Json

end ConsumerContract
