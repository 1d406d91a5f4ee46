/-
This file holds the source of computed examples: numbers that are free to
choose, and the current moment. Numbers are looked up by address, so that the
parts of a tree draw numbers of their own without passing a state along.
-/

import ConsumerContract.Calendar.DatePattern
import ConsumerContract.Generator
import ConsumerContract.Number.Decimal

namespace ConsumerContract

/-- Freely chosen numbers by address, and the current moment. -/
structure ExampleSource where
  draw : List Nat → Nat
  now : Moment

namespace ExampleSource

/-! ### Draws -/

/-- Spreads the bits of a word, so that words close to each other become unlike. -/
def spread (word : UInt64) : UInt64 :=
  let first := (word ^^^ (word >>> 30)) * 0xBF58476D1CE4E5B9
  let second := (first ^^^ (first >>> 27)) * 0x94D049BB133111EB
  second ^^^ (second >>> 31)

/-- Takes one part of an address into a word. -/
def step (word : UInt64) (part : Nat) : UInt64 :=
  spread (word + 0x9E3779B97F4A7C15 * (UInt64.ofNat part + 1))

/-- A source whose numbers are computed from a seed and the address. -/
def ofSeed (seed : UInt64) (now : Moment) : ExampleSource where
  draw address :=
    let word := address.foldl step seed
    (spread word).toNat * UInt64.size + (spread (word + 0x9E3779B97F4A7C15)).toNat
  now := now

/-- The numbers for one part of a tree. -/
def part (source : ExampleSource) (position : Nat) : ExampleSource :=
  { source with draw := fun address => source.draw (position :: address) }

/-! ### Examples -/

/-- A number below a bound, one for each position. -/
def below (source : ExampleSource) (bound position : Nat) : Nat :=
  source.draw [position] % bound

def bool (source : ExampleSource) : Bool :=
  source.below 2 0 = 1

/-- An integer within two bounds. -/
def integer (source : ExampleSource) (min max : Int64) : Int64 :=
  Int64.ofInt (min.toInt + source.below (max.toInt - min.toInt + 1).toNat 0)

/-- A decimal of some digits, none of them zero. From two digits on, a point stands
between two of them. -/
def decimal (source : ExampleSource) (digits : UInt8) : Decimal :=
  let count := max digits.toNat 1
  let number := (List.range count).foldl
    (fun number position => 10 * number + (1 + source.below 9 position)) 0
  if count = 1 then .ofInt number
  else ⟨(number : Int), (1 + source.below (count - 1) count : Nat)⟩

/-- Characters of an alphabet. -/
def text (source : ExampleSource) (alphabet : String) (size : Nat) : String :=
  let chars := alphabet.toList
  String.ofList <| (List.range size).map fun position =>
    chars.getD (source.below chars.length position) '0'

/-- Hexadecimal digits in upper case. -/
def hexadecimal (source : ExampleSource) (digits : UInt8) : String :=
  source.text "0123456789ABCDEF" digits.toNat

/-- Letters and digits. -/
def alphanumeric (source : ExampleSource) (size : UInt64) : String :=
  source.text "ABCDEFGHIJKLMNOPQRSTUVWXYZabcdefghijklmnopqrstuvwxyz0123456789" size.toNat

def uuid (source : ExampleSource) : Uuid :=
  Uuid.ofDraws fun position => source.draw [position]

/-- A part of the current moment in its standard form. -/
def standardText (source : ExampleSource) : CalendarPart → String
  | .date => source.now.dateText
  | .time => source.now.clockText ++ "Z"
  | .dateTime => source.now.dateText ++ "T" ++ source.now.clockText ++ "Z"

/-- A part of the current moment, in a pattern if there is one. -/
def calendarText (source : ExampleSource) (part : CalendarPart) :
    Option String → Except DatePatternFault String
  | none => .ok (source.standardText part)
  | some format => (DatePattern.ofText format).map (DatePattern.render source.now)

end ExampleSource

end ConsumerContract
