/-
This file holds moments of the proleptic Gregorian calendar to the nanosecond,
with or without an offset from UTC. Days are counted from 1 January 1970 by
shifting the start of the year to March, which puts the leap day at its end.
-/

import ConsumerContract.Number.Digits

namespace ConsumerContract

/-- A date and a time of day. The second is 60 in a leap second. -/
structure Moment where
  year : Int
  month : Nat
  day : Nat
  hour : Nat := 0
  minute : Nat := 0
  second : Nat := 0
  nanosecond : Nat := 0
  deriving DecidableEq, Repr, Inhabited

/-- A local moment and how many minutes it is ahead of UTC. -/
structure OffsetMoment where
  here : Moment
  offset : Int
  deriving DecidableEq, Repr, Inhabited

namespace Moment

/-! ### Counting days -/

/-- Days from 1 January 1970 to a date. -/
def daysOfDate (year : Int) (month day : Nat) : Int :=
  let shifted := if month ≤ 2 then year - 1 else year
  let era := shifted.fdiv 400
  let yearOfEra := shifted.fmod 400
  let monthFromMarch : Int := ((month + 9) % 12 : Nat)
  let dayOfYear := (153 * monthFromMarch + 2) / 5 + day - 1
  era * 146097 + (yearOfEra * 365 + yearOfEra / 4 - yearOfEra / 100 + dayOfYear) - 719468

/-- The date that is a number of days after 1 January 1970. -/
def dateOfDays (days : Int) : Moment :=
  let shifted := days + 719468
  let era := shifted.fdiv 146097
  let dayOfEra := shifted.fmod 146097
  let yearOfEra := (dayOfEra - dayOfEra / 1460 + dayOfEra / 36524 - dayOfEra / 146096) / 365
  let dayOfYear := dayOfEra - (365 * yearOfEra + yearOfEra / 4 - yearOfEra / 100)
  let monthFromMarch := (5 * dayOfYear + 2) / 153
  let month := ((monthFromMarch + 2) % 12 + 1).toNat
  let year := yearOfEra + era * 400
  { year := if month ≤ 2 then year + 1 else year
    month
    day := (dayOfYear - (153 * monthFromMarch + 2) / 5 + 1).toNat }

/-- Days from 1 January 1970 to the date of a moment. -/
def days (moment : Moment) : Int :=
  daysOfDate moment.year moment.month moment.day

/-- The day of the week, counted from Sunday. -/
def weekday (moment : Moment) : Nat :=
  ((moment.days + 4).fmod 7).toNat

/-- The day of the year, counted from one. -/
def dayOfYear (moment : Moment) : Nat :=
  (moment.days - daysOfDate moment.year 1 1 + 1).toNat

/-- The moment a number of seconds after the start of 1970. -/
def ofSeconds (seconds : Int) (nanosecond : Nat) : Moment :=
  let rest := (seconds.fmod 86400).toNat
  { dateOfDays (seconds.fdiv 86400) with
    hour := rest / 3600
    minute := rest / 60 % 60
    second := rest % 60
    nanosecond }

/-- A moment some minutes later; seconds are left as they are. -/
def addMinutes (moment : Moment) (minutes : Int) : Moment :=
  let total := (moment.days * 24 + moment.hour) * 60 + moment.minute + minutes
  let rest := (total.fmod 1440).toNat
  { dateOfDays (total.fdiv 1440) with
    hour := rest / 60
    minute := rest % 60
    second := moment.second
    nanosecond := moment.nanosecond }

/-! ### Writing -/

/-- A year with four digits at least; outside of these it has a sign. -/
def yearText (year : Int) : String :=
  if 0 ≤ year ∧ year ≤ 9999 then paddedText 4 year.natAbs
  else (if year < 0 then "-" else "+") ++ paddedText 4 year.natAbs

/-- The date with hyphens. -/
def dateText (moment : Moment) : String :=
  yearText moment.year ++ "-" ++ paddedText 2 moment.month ++ "-" ++ paddedText 2 moment.day

/-- A fraction of a second in as many groups of three digits as it needs. -/
def fractionText (nanosecond : Nat) : String :=
  if nanosecond = 0 then ""
  else if nanosecond % 1000000 = 0 then "." ++ paddedText 3 (nanosecond / 1000000)
  else if nanosecond % 1000 = 0 then "." ++ paddedText 6 (nanosecond / 1000)
  else "." ++ paddedText 9 nanosecond

/-- Hours, minutes and seconds. -/
def clockText (moment : Moment) : String :=
  paddedText 2 moment.hour ++ ":" ++ paddedText 2 moment.minute ++ ":" ++
    paddedText 2 moment.second

/-- The time of day with a fraction where there is one. -/
def timeText (moment : Moment) : String :=
  moment.clockText ++ fractionText moment.nanosecond

/-- Date and time with a blank between them. -/
def text (moment : Moment) : String :=
  moment.dateText ++ " " ++ moment.timeText

end Moment

namespace OffsetMoment

/-- The same moment in UTC. -/
def utc (moment : OffsetMoment) : Moment :=
  moment.here.addMinutes (-moment.offset)

/-- An offset with a sign, hours and minutes. -/
def offsetText (offset : Int) : String :=
  (if offset < 0 then "-" else "+") ++ paddedText 2 (offset.natAbs / 60) ++ ":" ++
    paddedText 2 (offset.natAbs % 60)

/-- Date, `T`, time and offset. -/
def text (moment : OffsetMoment) : String :=
  moment.here.dateText ++ "T" ++ moment.here.timeText ++ offsetText moment.offset

end OffsetMoment

/-! ### Reading -/

namespace Moment

/-- A fixed count of digits as a number. -/
def number? (count : Nat) (text : List Char) : Option (Nat × List Char) :=
  let (digits, _) := Digit.span (text.take count)
  if digits.length = count then some (Digit.value digits, text.drop count) else none

/-- Leaves out one character that has to be there. -/
def after? (char : Char) : List Char → Option (List Char)
  | [] => none
  | other :: rest => if other = char then some rest else none

/-- A date with hyphens at the start of a text. -/
def readDate? (text : List Char) : Option (Moment × List Char) := do
  let (year, rest) ← number? 4 text
  let rest ← after? '-' rest
  let (month, rest) ← number? 2 rest
  let rest ← after? '-' rest
  let (day, rest) ← number? 2 rest
  some ({ year, month, day }, rest)

/-- Nanoseconds from the digits of a fraction; further digits are left out. -/
def nanoseconds (digits : List Digit) : Nat :=
  Digit.value ((digits ++ List.replicate 9 Digit.zero).take 9)

/-- The time of day at the start of a text, put into a date. -/
def readTime? (date : Moment) (text : List Char) : Option (Moment × List Char) := do
  let (hour, rest) ← number? 2 text
  let rest ← after? ':' rest
  let (minute, rest) ← number? 2 rest
  let rest ← after? ':' rest
  let (second, rest) ← number? 2 rest
  let (fraction, rest) : List Digit × List Char :=
    match rest with
    | '.' :: digits => Digit.span digits
    | _ => ([], rest)
  some ({ date with hour, minute, second, nanosecond := nanoseconds fraction }, rest)

/-- A date alone. -/
def ofDateText? (text : String) : Option Moment :=
  match readDate? text.toList with
  | some (moment, []) => some moment
  | _ => none

/-- A date and a time without an offset. -/
def ofText? (text : String) : Option Moment := do
  let (date, rest) ← readDate? text.toList
  let (moment, rest) ← readTime? date (rest.drop 1)
  if rest.isEmpty then some moment else none

end Moment

namespace OffsetMoment

/-- An offset: `Z`, or a sign with hours and minutes. -/
def readOffset? (text : List Char) : Option Int :=
  match text with
  | ['Z'] | ['z'] => some 0
  | sign :: rest => do
    let (hours, rest) ← Moment.number? 2 rest
    let rest ← Moment.after? ':' rest
    let (minutes, rest) ← Moment.number? 2 rest
    let offset : Int := (hours * 60 + minutes : Nat)
    if !rest.isEmpty then none
    else if sign = '+' then some offset
    else if sign = '-' then some (-offset)
    else none
  | [] => none

/-- A date and a time with an offset. -/
def ofText? (text : String) : Option OffsetMoment := do
  let (date, rest) ← Moment.readDate? text.toList
  let (here, rest) ← Moment.readTime? date (rest.drop 1)
  let offset ← readOffset? rest
  some { here, offset }

end OffsetMoment

end ConsumerContract
