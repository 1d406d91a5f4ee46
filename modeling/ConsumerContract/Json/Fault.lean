/-
This file holds the faults of texts that are no JSON. A fault lies a number of
bytes into its text.
-/

import ConsumerContract.TextPlace

namespace ConsumerContract

/-- Why a text is no JSON. -/
inductive JsonProblem where
  | endInList
  | endInObject
  | endInString
  | endInValue
  | expectedColon
  | expectedListEnd
  | expectedObjectEnd
  | expectedWord
  | expectedValue
  | invalidEscape
  | invalidNumber
  | controlCharacter
  | keyNotText
  | loneSurrogate
  | brokenSurrogate
  | trailingComma
  | trailingCharacters
  | tooDeep
  deriving DecidableEq, Repr, Inhabited

/-- The wording of a problem. -/
def JsonProblem.message : JsonProblem → String
  | endInList => "EOF while parsing a list"
  | endInObject => "EOF while parsing an object"
  | endInString => "EOF while parsing a string"
  | endInValue => "EOF while parsing a value"
  | expectedColon => "expected `:`"
  | expectedListEnd => "expected `,` or `]`"
  | expectedObjectEnd => "expected `,` or `\x7d`"
  | expectedWord => "expected ident"
  | expectedValue => "expected value"
  | invalidEscape => "invalid escape"
  | invalidNumber => "invalid number"
  | controlCharacter => "control character (\\u0000-\\u001F) found while parsing a string"
  | keyNotText => "key must be a string"
  | loneSurrogate => "lone leading surrogate in hex escape"
  | brokenSurrogate => "unexpected end of hex escape"
  | trailingComma => "trailing comma"
  | trailingCharacters => "trailing characters"
  | tooDeep => "recursion limit exceeded"

/-- A problem after a number of bytes of a text. -/
structure JsonFault where
  problem : JsonProblem
  offset : Nat
  deriving DecidableEq, Repr, Inhabited

/-- The wording of a fault in a text. -/
def JsonFault.message (fault : JsonFault) (text : String) : String :=
  messageAt fault.problem.message text fault.offset

end ConsumerContract
