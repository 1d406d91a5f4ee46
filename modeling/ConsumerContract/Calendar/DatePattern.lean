/-
This file holds date patterns such as `yyyy-MM-dd'T'HH:mm:ss`. A run of one
letter names a field of a moment, and the length of the run its form; text
between quotes and everything that is not an ASCII letter stands for itself, and
two quotes for one. A pattern is a list of pieces, which can be written as
percent directives or rendered for a moment.
-/

import ConsumerContract.Calendar.Moment

namespace ConsumerContract

/-- The fields of a moment in the forms that a pattern can ask for. -/
inductive DateField where
  | year | yearOfCentury
  | month | monthPadded | monthShort | monthName
  | day | dayPadded | dayOfYear
  | weekdayShort | weekdayName
  | halfDay
  | hour | hourPadded | hourOfHalf | hourOfHalfPadded
  | minute | minutePadded
  | second | secondPadded
  | milliseconds | microseconds | nanoseconds
  | offset | offsetWithColon | zone
  deriving DecidableEq, Repr, Inhabited

/-- A piece of a pattern. -/
inductive DatePiece where
  | field (kind : DateField)
  | literal (char : Char)
  deriving DecidableEq, Repr, Inhabited

/-- Why a text is no pattern. -/
inductive DatePatternFault where
  | unterminatedQuote
  | unsupportedLetter (letter : Char)
  deriving DecidableEq, Repr, Inhabited

/-- A date pattern, piece by piece. -/
abbrev DatePattern := List DatePiece

namespace DateField

/-- The field for a run of a letter. -/
def ofRun? (letter : Char) (length : Nat) : Option DateField :=
  match letter with
  | 'y' => some (if length = 2 then yearOfCentury else year)
  | 'M' | 'L' =>
    some (if length = 1 then month else if length = 2 then monthPadded
      else if length = 3 then monthShort else monthName)
  | 'd' => some (if length = 1 then day else dayPadded)
  | 'D' => some dayOfYear
  | 'E' => some (if length ≤ 3 then weekdayShort else weekdayName)
  | 'a' => some halfDay
  | 'H' => some (if length = 1 then hour else hourPadded)
  | 'h' => some (if length = 1 then hourOfHalf else hourOfHalfPadded)
  | 'm' => some (if length = 1 then minute else minutePadded)
  | 's' => some (if length = 1 then second else secondPadded)
  | 'S' =>
    some (if length ≤ 3 then milliseconds else if length ≤ 6 then microseconds else nanoseconds)
  | 'Z' => some offset
  | 'X' | 'x' => some (if length ≤ 2 then offset else offsetWithColon)
  | 'z' => some zone
  | _ => none

/-- The percent directive of a field. -/
def directive : DateField → String
  | year => "%Y"
  | yearOfCentury => "%y"
  | month => "%-m"
  | monthPadded => "%m"
  | monthShort => "%b"
  | monthName => "%B"
  | day => "%-d"
  | dayPadded => "%d"
  | dayOfYear => "%j"
  | weekdayShort => "%a"
  | weekdayName => "%A"
  | halfDay => "%p"
  | hour => "%-H"
  | hourPadded => "%H"
  | hourOfHalf => "%-I"
  | hourOfHalfPadded => "%I"
  | minute => "%-M"
  | minutePadded => "%M"
  | second => "%-S"
  | secondPadded => "%S"
  | milliseconds => "%3f"
  | microseconds => "%6f"
  | nanoseconds => "%9f"
  | offset => "%z"
  | offsetWithColon => "%:z"
  | zone => "%Z"

/-- The names of the months. -/
def monthNames : List String :=
  ["January", "February", "March", "April", "May", "June", "July", "August", "September",
    "October", "November", "December"]

/-- The names of the days of the week, from Sunday on. -/
def weekdayNames : List String :=
  ["Sunday", "Monday", "Tuesday", "Wednesday", "Thursday", "Friday", "Saturday"]

/-- The first three letters of a name. -/
def short (name : String) : String :=
  String.ofList (name.toList.take 3)

/-- The hour on a clock of twelve. -/
def clockHour (hour : Nat) : Nat :=
  if hour % 12 = 0 then 12 else hour % 12

/-- The field of a moment in UTC as text. -/
def render (moment : Moment) : DateField → String
  | year => Moment.yearText moment.year
  | yearOfCentury => paddedText 2 (moment.year.fmod 100).toNat
  | month => decimalText moment.month
  | monthPadded => paddedText 2 moment.month
  | monthShort => short (monthNames.getD (moment.month - 1) "")
  | monthName => monthNames.getD (moment.month - 1) ""
  | day => decimalText moment.day
  | dayPadded => paddedText 2 moment.day
  | dayOfYear => paddedText 3 moment.dayOfYear
  | weekdayShort => short (weekdayNames.getD moment.weekday "")
  | weekdayName => weekdayNames.getD moment.weekday ""
  | halfDay => if moment.hour < 12 then "AM" else "PM"
  | hour => decimalText moment.hour
  | hourPadded => paddedText 2 moment.hour
  | hourOfHalf => decimalText (clockHour moment.hour)
  | hourOfHalfPadded => paddedText 2 (clockHour moment.hour)
  | minute => decimalText moment.minute
  | minutePadded => paddedText 2 moment.minute
  | second => decimalText moment.second
  | secondPadded => paddedText 2 moment.second
  | milliseconds => paddedText 3 (moment.nanosecond / 1000000)
  | microseconds => paddedText 6 (moment.nanosecond / 1000)
  | nanoseconds => paddedText 9 moment.nanosecond
  | offset => "+0000"
  | offsetWithColon => "+00:00"
  | zone => "UTC"

end DateField

namespace DatePiece

/-- The percent form of a piece; a percent sign is doubled. -/
def directive : DatePiece → String
  | field kind => kind.directive
  | literal char => if char = '%' then "%%" else String.singleton char

/-- A piece for a moment. -/
def render (moment : Moment) : DatePiece → String
  | field kind => kind.render moment
  | literal char => String.singleton char

end DatePiece

namespace DatePattern

/-- What the reader of a pattern is inside of: nothing, a quoted text, or a run of a
letter, of which `length` have been read. -/
inductive Mode where
  | plain
  | quoted
  | run (letter : Char) (length : Nat)
  deriving DecidableEq, Repr

/-- Ends a run of letters in front of the pieces that follow. -/
def closeRun (mode : Mode) (rest : Except DatePatternFault DatePattern) :
    Except DatePatternFault DatePattern :=
  match mode with
  | .run letter length =>
    match DateField.ofRun? letter length with
    | some field => rest.map (.field field :: ·)
    | none => .error (.unsupportedLetter letter)
  | _ => rest

/-- Whether a character belongs to a run of letters. -/
def isPatternLetter (char : Char) : Bool :=
  char.isAlpha

/-- Reads the pieces of a pattern. -/
def read (mode : Mode) : List Char → Except DatePatternFault DatePattern
  | [] =>
    match mode with
    | .quoted => .error .unterminatedQuote
    | mode => closeRun mode (.ok [])
  | '\'' :: '\'' :: rest =>
    match mode with
    | .quoted => (read .quoted rest).map (.literal '\'' :: ·)
    | mode => closeRun mode ((read .plain rest).map (.literal '\'' :: ·))
  | '\'' :: rest =>
    match mode with
    | .quoted => read .plain rest
    | mode => closeRun mode (read .quoted rest)
  | char :: rest =>
    match mode with
    | .quoted => (read .quoted rest).map (.literal char :: ·)
    | mode =>
      if isPatternLetter char then
        match mode with
        | .run letter length =>
          if letter = char then read (.run letter (length + 1)) rest
          else closeRun mode (read (.run char 1) rest)
        | _ => read (.run char 1) rest
      else closeRun mode ((read .plain rest).map (.literal char :: ·))

/-- The pattern that a text writes. -/
def ofText (text : String) : Except DatePatternFault DatePattern :=
  read .plain text.toList

/-- The pattern in percent directives. -/
def directives (pattern : DatePattern) : String :=
  String.join (pattern.map DatePiece.directive)

/-- The pattern for a moment in UTC. -/
def render (moment : Moment) (pattern : DatePattern) : String :=
  String.join (pattern.map (DatePiece.render moment))

end DatePattern

/-- The wording of a fault in a pattern. -/
def DatePatternFault.message (pattern : String) : DatePatternFault → String
  | unterminatedQuote => "unterminated quote in \"" ++ pattern ++ "\""
  | unsupportedLetter letter =>
    "unsupported pattern letter '" ++ String.singleton letter ++ "' in \"" ++ pattern ++ "\""

end ConsumerContract
