/-
This file holds sets of characters as ranges of code points. The ranges are in
order and apart from each other. Code points between the two halves of the
surrogate gap are no characters: counting goes from `D7FF` on to `E000`.
-/

namespace ConsumerContract

/-- Ranges of code points, both ends included. -/
structure Ranges where
  ranges : List (Nat × Nat)
  deriving DecidableEq, Repr, Inhabited

namespace Ranges

/-- The last code point. -/
def lastPoint : Nat := 0x10FFFF

/-- Whether a code point is in one of the ranges. -/
def containsPoint (set : Ranges) (point : Nat) : Bool :=
  set.ranges.any fun (first, last) => first ≤ point && point ≤ last

/-- Whether a character is in one of the ranges. -/
def contains (set : Ranges) (char : Char) : Bool :=
  set.containsPoint char.toNat

/-- The set without characters. -/
def empty : Ranges := ⟨[]⟩

/-- All characters. -/
def all : Ranges := ⟨[(0, lastPoint)]⟩

/-- The characters from one code point to another. -/
def span (first last : Nat) : Ranges := ⟨[(first, last)]⟩

/-- One character. -/
def single (char : Char) : Ranges := span char.toNat char.toNat

/-! ### Reading -/

/-- The value of a capital hexadecimal digit, or of a decimal one. -/
def digitValue (char : Char) : Nat :=
  if char.isDigit then char.toNat - '0'.toNat else char.toNat - 'A'.toNat + 10

/-- Reads ranges: `first` and `last` are the ends of the range that is being
read, `inLast` says that its hyphen has been seen. -/
def read (first last : Nat) (inLast : Bool) : List Char → List (Nat × Nat)
  | [] => [(first, if inLast then last else first)]
  | ' ' :: rest => (first, if inLast then last else first) :: read 0 0 false rest
  | '-' :: rest => read first 0 true rest
  | char :: rest =>
    if inLast then read first (16 * last + digitValue char) true rest
    else read (16 * first + digitValue char) last false rest

/-- Ranges written as hexadecimal code points in order, a hyphen between the two
ends of a range and a blank between ranges. -/
def ofText (text : String) : Ranges :=
  if text.isEmpty then empty else ⟨read 0 0 false text.toList⟩

/-! ### Operations on sets -/

/-- Joins ranges that touch or overlap; `first` and `last` are the ends of the
range in front. -/
def joinOnto (first last : Nat) : List (Nat × Nat) → List (Nat × Nat)
  | [] => [(first, last)]
  | (start, stop) :: rest =>
    if start ≤ last + 1 then joinOnto first (max last stop) rest
    else (first, last) :: joinOnto start stop rest

/-- Joins ranges that touch or overlap, in a list that is in order. -/
def joined : List (Nat × Nat) → List (Nat × Nat)
  | [] => []
  | (first, last) :: rest => joinOnto first last rest

/-- Whether a range starts no later than another. -/
def startsFirst (one other : Nat × Nat) : Bool :=
  one.1 ≤ other.1

/-- The set with some ranges in any order. -/
def ofList (ranges : List (Nat × Nat)) : Ranges :=
  ⟨joined (ranges.mergeSort startsFirst)⟩

/-- The characters of either set. -/
def union (one other : Ranges) : Ranges :=
  ⟨joined (one.ranges.merge other.ranges startsFirst)⟩

/-- The characters of any of some sets. -/
def unions (sets : List Ranges) : Ranges :=
  ofList (sets.flatMap (·.ranges))

/-- What two lists of ranges have in common. -/
def common : List (Nat × Nat) → List (Nat × Nat) → List (Nat × Nat)
  | [], _ => []
  | _ :: _, [] => []
  | (first, last) :: rest, (start, stop) :: others =>
    let further :=
      if last < stop then common rest ((start, stop) :: others)
      else common ((first, last) :: rest) others
    if max first start ≤ min last stop then (max first start, min last stop) :: further
    else further
termination_by one other => one.length + other.length

/-- The characters of both sets. -/
def intersection (one other : Ranges) : Ranges :=
  ⟨common one.ranges other.ranges⟩

/-- The code point behind one. -/
def after (point : Nat) : Nat :=
  if point = 0xD7FF then 0xE000 else point + 1

/-- The code point in front of one. -/
def before (point : Nat) : Nat :=
  if point = 0xE000 then 0xD7FF else point - 1

/-- The gaps behind a code point. Between two ranges that meet at the surrogates
there is none, which shows as a gap that ends before it starts. -/
def gapsBehind (point : Nat) : List (Nat × Nat) → List (Nat × Nat)
  | [] => if point < lastPoint then [(after point, lastPoint)] else []
  | (first, last) :: rest => (after point, before first) :: gapsBehind last rest

/-- The gaps between ranges, and those at both ends. -/
def gaps : List (Nat × Nat) → List (Nat × Nat)
  | [] => [(0, lastPoint)]
  | (first, last) :: rest => (if 0 < first then [(0, before first)] else []) ++ gapsBehind last rest

/-- The characters in the gaps. A gap reaches from the smaller to the greater of its ends. -/
def complement (set : Ranges) : Ranges :=
  ⟨(gaps set.ranges).map fun (first, last) => (min first last, max first last)⟩

/-- The characters of one set that are not in the other. -/
def difference (one other : Ranges) : Ranges :=
  ⟨common one.ranges ((gaps other.ranges).filter fun (first, last) => first ≤ last)⟩

/-- The characters that are in one of two sets alone. -/
def symmetricDifference (one other : Ranges) : Ranges :=
  (one.union other).difference (one.intersection other)

/-- Whether all characters are ASCII. -/
def isAscii (set : Ranges) : Bool :=
  set.ranges.all fun (_, last) => last ≤ 0x7F

/-- The only character of a set. -/
def onlyChar? (set : Ranges) : Option Char :=
  match set.ranges with
  | [(first, last)] => if first = last then some (Char.ofNat first) else none
  | _ => none

end Ranges

end ConsumerContract
