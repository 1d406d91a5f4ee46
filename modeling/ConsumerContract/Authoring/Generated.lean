/-
This file holds the constructors of generator nodes. A generator declares how a
live value is derived, and its example is computed here and now. Parameters that
no value satisfies give an invalid node, which is reported with its path when
the tree is compiled.
-/

import ConsumerContract.Authoring.ExampleSource
import ConsumerContract.Node.Basic

namespace ConsumerContract

/-- The problem with two bounds that exclude every value. -/
def boundsProblem (min max : String) : String :=
  "minimum " ++ min ++ " is greater than maximum " ++ max

/-- The problem with a text that is too long to be generated. -/
def sizeProblem (size : UInt64) : String :=
  "size " ++ decimalText size.toNat ++ " is larger than " ++
    decimalText Generator.maxStringSize.toNat

namespace Generated

def bool (source : ExampleSource) : Node :=
  .generator .randomBoolean (.bool source.bool)

/-- An integer within two bounds. -/
def integer (source : ExampleSource) (min max : Int64) : Node :=
  let lower := signedText min.toInt
  let upper := signedText max.toInt
  if max < min then
    .invalidParameter ("RandomInt(" ++ lower ++ ", " ++ upper ++ ")") (boundsProblem lower upper)
  else .generator (.randomInt min max) (.integer (source.integer min max))

/-- A decimal with a count of digits; counts above the largest are reduced to it. -/
def decimal (source : ExampleSource) (digits : UInt8) : Node :=
  if digits = 0 then
    .invalidParameter "RandomDecimal(0)" "a decimal needs at least one digit"
  else
    let capped := min digits Generator.maxDecimalDigits
    .generator (.randomDecimal capped) (.decimal (source.decimal capped))

/-- Hexadecimal digits in upper case. -/
def hexadecimal (source : ExampleSource) (digits : UInt8) : Node :=
  .generator (.randomHexadecimal digits) (.string (source.hexadecimal digits))

/-- Letters and digits. -/
def string (source : ExampleSource) (size : UInt64) : Node :=
  if Generator.maxStringSize < size then
    .invalidParameter ("RandomString(" ++ decimalText size.toNat ++ ")") (sizeProblem size)
  else .generator (.randomString size) (.string (source.alphanumeric size))

/-- A text that a pattern describes, with the example that is given. -/
def stringMatching (pattern sample : String) : Node :=
  .generator (.regex pattern) (.string sample)

/-- A part of the current moment, in a format if there is one. -/
def calendar (source : ExampleSource) (part : CalendarPart) (format expression : Option String) :
    Node :=
  match source.calendarText part format with
  | .ok text => .generator (.calendar part format expression) (.string text)
  | .error fault =>
    .invalidParameter (part.kind ++ "(" ++ format.getD "" ++ ")") (fault.message (format.getD ""))

/-- The moment that an expression such as `today + 1 day` stands for; the example is the
current one. -/
def dateTimeExpression (source : ExampleSource) (expression format : String) : Node :=
  calendar source .dateTime (some format) (some expression)

/-- A UUID; without a layout its digits are in lower case and hyphenated. -/
def uuid (source : ExampleSource) (format : Option UuidFormat) : Node :=
  .generator (.uuid format)
    (.string ((format.getD .lowerCaseHyphenated).render source.uuid))

/-- The node of a declaration, with an example that is computed from it. A pattern and a
provider state give no example. -/
def ofDeclaration (source : ExampleSource) (declaration : Generator) : Node :=
  match declaration with
  | .randomBoolean => bool source
  | .randomInt min max => integer source min max
  | .randomDecimal digits => decimal source digits
  | .randomHexadecimal digits => hexadecimal source digits
  | .randomString size => string source size
  | .calendar part format expression => calendar source part format expression
  | .uuid format => uuid source format
  | .mockServerUrl sample _ => .generator declaration (.string sample)
  | .regex _ | .providerState _ =>
    .invalidParameter declaration.kind "a 'value' is required"

end Generated

end ConsumerContract
