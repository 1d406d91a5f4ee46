/-
This file holds places in texts, as messages give them: a line, counted from
one, and a column on it. A place that is known as a number of bytes has the
bytes in front of it on its line as column.
-/

import ConsumerContract.Number.Digits

namespace ConsumerContract

/-- A place in a text. -/
structure TextPlace where
  line : Nat
  column : Nat
  deriving DecidableEq, Repr, Inhabited

namespace TextPlace

/-- The place one byte further. -/
def next (place : TextPlace) (byte : UInt8) : TextPlace :=
  if byte = 10 then ⟨place.line + 1, 0⟩ else ⟨place.line, place.column + 1⟩

/-- The place after a number of bytes. -/
def ofOffset (text : String) (offset : Nat) : TextPlace :=
  (text.toUTF8.toList.take offset).foldl next ⟨1, 0⟩

/-- A place as messages give it. -/
def text (place : TextPlace) : String :=
  "line " ++ decimalText place.line ++ " column " ++ decimalText place.column

end TextPlace

/-- A message with the place it is about. -/
def messageAt (message text : String) (offset : Nat) : String :=
  message ++ " at " ++ (TextPlace.ofOffset text offset).text

end ConsumerContract
