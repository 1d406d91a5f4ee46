/-
This file holds generators: declarations of how a live value is derived again
when a contract is verified. A declaration is written as an object whose `type`
names its kind; optional parameters that were not given are left out.
-/

import ConsumerContract.Uuid

namespace ConsumerContract

/-- The part of a moment that a date or time generator stands for. -/
inductive CalendarPart where
  | date
  | time
  | dateTime
  deriving DecidableEq, Repr, Inhabited

/-- A declaration of how a value is generated. -/
inductive Generator where
  | randomBoolean
  | randomInt (min max : Int64)
  | randomDecimal (digits : UInt8)
  | randomHexadecimal (digits : UInt8)
  | randomString (size : UInt64)
  | regex (pattern : String)
  | calendar (part : CalendarPart) (format expression : Option String)
  | uuid (format : Option UuidFormat)
  /-- A value that a provider state supplies. -/
  | providerState (expression : String)
  /-- A URL on the mock server: the pattern's one group is the part kept from the example. -/
  | mockServerUrl (sample pattern : String)
  deriving DecidableEq, Inhabited

/-- The kind of generator for a part of a moment. -/
def CalendarPart.kind : CalendarPart → String
  | .date => "Date"
  | .time => "Time"
  | .dateTime => "DateTime"

namespace Generator

/-- The most digits a random decimal has. -/
def maxDecimalDigits : UInt8 := 9

/-- The most characters a random string has. -/
def maxStringSize : UInt64 := 4096

/-- The `type` of the declaration. -/
def kind : Generator → String
  | randomBoolean => "RandomBoolean"
  | randomInt .. => "RandomInt"
  | randomDecimal .. => "RandomDecimal"
  | randomHexadecimal .. => "RandomHexadecimal"
  | randomString .. => "RandomString"
  | regex .. => "Regex"
  | calendar part .. => part.kind
  | uuid .. => "Uuid"
  | providerState .. => "ProviderState"
  | mockServerUrl .. => "MockServerURL"

/-- The parameters of the declaration in their written order. -/
def parameters : Generator → List (String × Json)
  | randomBoolean => []
  | randomInt min max => [("min", .ofInt min.toInt), ("max", .ofInt max.toInt)]
  | randomDecimal digits => [("digits", .ofNat digits.toNat)]
  | randomHexadecimal digits => [("digits", .ofNat digits.toNat)]
  | randomString size => [("size", .ofNat size.toNat)]
  | regex pattern => [("regex", .string pattern)]
  | calendar _ format expression =>
    Json.optionalMember "format" (format.map .string) ++
      Json.optionalMember "expression" (expression.map .string)
  | uuid format => Json.optionalMember "format" (format.map fun format => .string format.name)
  | providerState expression => [("expression", .string expression)]
  | mockServerUrl sample pattern => [("example", .string sample), ("regex", .string pattern)]

/-- The declaration as it appears in a contract. -/
def toJson (generator : Generator) : Json :=
  .object (("type", .string generator.kind) :: generator.parameters)

end Generator

end ConsumerContract
