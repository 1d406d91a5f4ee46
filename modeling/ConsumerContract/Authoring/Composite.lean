/-
This file holds the constructors of nodes that carry a rule and a generator at
once: the contract compares an actual value by its type, and a live value is
derived in place of the sample.
-/

import ConsumerContract.Authoring.Matcher

namespace ConsumerContract.Composite

/-- A value of the same type as the sample, with a generator. -/
def like (generator : Generator) (sample : Node) : Node :=
  .composite .sameType generator sample

/-- A value that a parameter of the provider state supplies. -/
def ofProviderState (parameter : String) (sample : Node) : Node :=
  like (.providerState parameter) sample

/-- A text that is generated with a count of characters, by default that of the sample. -/
def string (sample : String) (size : Option UInt64) : Node :=
  like (.randomString (size.getD (UInt64.ofNat sample.length))) (.string sample)

/-- An integer that is generated within two bounds. -/
def integer (sample min max : Int64) : Node :=
  if max < min then
    .invalidParameter ("randomInteger(" ++ signedText sample.toInt ++ ")")
      (boundsProblem (signedText min.toInt) (signedText max.toInt))
  else like (.randomInt min max) (.integer sample)

/-- An integer that is generated within two bounds, as its sample is. -/
def anyInteger (source : ExampleSource) (min max : Int64) : Node :=
  match Generated.integer source min max with
  | .generator declaration sample => like declaration sample
  | unusable => unusable

/-- A number that is generated with a count of digits, which is brought into its range. -/
def decimal (sample : Node) (digits : UInt8) : Node :=
  like (.randomDecimal (min (max digits 1) Generator.maxDecimalDigits)) sample

def boolean : Node :=
  like .randomBoolean (.bool true)

/-- A UUID that is generated in a layout, in which the sample has to be as well. -/
def uuid (sample : String) (format : UuidFormat) : Node :=
  let fits :=
    match Pattern.compile format.pattern with
    | .ok pattern => pattern.matchesIn sample
    | .error _ => false
  if fits then like (.uuid (some format)) (.string sample)
  else
    .invalidParameter (Matcher.quotedCall "randomUUID" sample)
      ("example is not a " ++ format.label ++ " UUID")

/-- Hexadecimal digits that are generated, by default as many as the sample has. -/
def hexadecimal (sample : String) (digits : Option UInt8) : Node :=
  match digits with
  | some digits => like (.randomHexadecimal digits) (.string sample)
  | none =>
    if sample.length < 256 then
      like (.randomHexadecimal (UInt8.ofNat sample.length)) (.string sample)
    else
      .invalidParameter (Matcher.quotedCall "randomHexadecimal" sample)
        "example is longer than 255 digits"

/-- A part of a moment that is generated in a format. -/
def calendar (part : CalendarPart) (sample format : String) (expression : Option String) : Node :=
  Matcher.withFormat part.kind sample format
    (like (.calendar part (some format) expression) (.string sample))

/-- A URL on the mock server; the one group of the pattern is the part of the sample that
stays. -/
def mockServerUrl (sample pattern : String) : Node :=
  like (.mockServerUrl sample pattern) (.string sample)

end ConsumerContract.Composite
