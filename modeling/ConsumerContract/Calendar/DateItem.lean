/-
This file holds the way from a date pattern to its text through percent
directives. A pattern is translated into a text of directives, and a formatter
reads the items of that text and renders them for a moment. The reader of items
is a parameter: nothing is used of it but how it reads the directives of fields,
doubled percent signs and plain characters. A text with an item that the reader
does not know can not be rendered.
-/

import ConsumerContract.Calendar.DatePattern

namespace ConsumerContract

/-- An item of a text in percent directives. Texts are cut into single characters. -/
inductive DateItem where
  | literal (char : Char)
  | field (kind : DateField)
  | unknown
  deriving DecidableEq, Repr, Inhabited

/-- Reads the items of a text in percent directives. -/
abbrev DateItemReader := List Char → List DateItem

/-- Why a text has no translation that can be rendered. -/
inductive DateTranslationFault where
  | noPattern (fault : DatePatternFault)
  | unknownItem
  deriving DecidableEq, Repr, Inhabited

/-- The wording of a fault in a pattern that is translated. -/
def DateTranslationFault.message (pattern : String) : DateTranslationFault → String
  | noPattern fault => fault.message pattern
  | unknownItem => "pattern \"" ++ pattern ++ "\" can not be rendered"

namespace DateItem

/-- The item that a piece of a pattern asks for. -/
def ofPiece : DatePiece → DateItem
  | .literal char => literal char
  | .field kind => field kind

/-- An item for a moment in UTC. -/
def render? (moment : Moment) : DateItem → Option String
  | literal char => some (String.singleton char)
  | field kind => some (kind.render moment)
  | unknown => none

/-- The field of a directive with one letter. -/
def ofLetter : Char → DateItem
  | 'Y' => field .year
  | 'y' => field .yearOfCentury
  | 'm' => field .monthPadded
  | 'b' => field .monthShort
  | 'B' => field .monthName
  | 'd' => field .dayPadded
  | 'j' => field .dayOfYear
  | 'a' => field .weekdayShort
  | 'A' => field .weekdayName
  | 'p' => field .halfDay
  | 'H' => field .hourPadded
  | 'I' => field .hourOfHalfPadded
  | 'M' => field .minutePadded
  | 'S' => field .secondPadded
  | 'z' => field .offset
  | 'Z' => field .zone
  | '%' => literal '%'
  | _ => unknown

/-- The field of a directive that leaves out leading zeros. -/
def ofUnpaddedLetter : Char → DateItem
  | 'm' => field .month
  | 'd' => field .day
  | 'H' => field .hour
  | 'I' => field .hourOfHalf
  | 'M' => field .minute
  | 'S' => field .second
  | _ => unknown

/-- A reader that knows the directives of fields and no others. -/
def read : DateItemReader
  | '%' :: '-' :: letter :: rest => ofUnpaddedLetter letter :: read rest
  | '%' :: ':' :: 'z' :: rest => field .offsetWithColon :: read rest
  | '%' :: '3' :: 'f' :: rest => field .milliseconds :: read rest
  | '%' :: '6' :: 'f' :: rest => field .microseconds :: read rest
  | '%' :: '9' :: 'f' :: rest => field .nanoseconds :: read rest
  | '%' :: letter :: rest => ofLetter letter :: read rest
  | ['%'] => [unknown]
  | char :: rest => literal char :: read rest
  | [] => []

end DateItem

namespace DatePattern

/-- The percent directives for the pattern that a text writes. All their items have to be
known to the reader. -/
def translate (items : DateItemReader) (text : String) : Except DateTranslationFault String :=
  match ofText text with
  | .error fault => .error (.noPattern fault)
  | .ok pattern =>
    if .unknown ∈ items pattern.directives.toList then .error .unknownItem
    else .ok pattern.directives

/-- The pattern that a text writes, rendered for a moment in UTC by way of its directives. -/
def renderText (items : DateItemReader) (moment : Moment) (text : String) :
    Except DateTranslationFault String :=
  match translate items text with
  | .error fault => .error fault
  | .ok directives =>
    match (items directives.toList).mapM (DateItem.render? moment) with
    | some texts => .ok (String.join texts)
    | none => .error .unknownItem

end DatePattern

end ConsumerContract
