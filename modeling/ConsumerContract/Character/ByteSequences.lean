/-
This file writes sets of characters as sequences of bytes, the way texts are
stored. A range of characters is cut where the number of bytes changes, and at
blocks of 64, 64 times 64 and 64 times 64 times 64 characters, so that in every
piece each byte has a range that does not depend on the other bytes.
-/

import ConsumerContract.Character.Ranges

namespace ConsumerContract

/-- A range of bytes, both ends included. -/
structure ByteRange where
  first : UInt8
  last : UInt8
  deriving DecidableEq, Repr, Inhabited

namespace Ranges

/-- The ranges of characters that are stored in the same number of bytes. -/
def storedAlike : List (Nat × Nat) :=
  [(0, 0x7F), (0x80, 0x7FF), (0x800, 0xD7FF), (0xE000, 0xFFFF), (0x10000, lastPoint)]

/-- A range cut at the blocks of some sizes. In front are the rest of a block and behind is
the start of one; in between are whole blocks, which are cut at those of the next size. -/
def cutAtBlocks : List Nat → Nat → Nat → List (Nat × Nat)
  | [], first, last => [(first, last)]
  | size :: sizes, first, last =>
    if first / size = last / size then [(first, last)]
    else
      let start := (first + size - 1) / size * size
      let stop := (last + 1) / size * size
      (if first < start then [(first, start - 1)] else []) ++
        (if start < stop then cutAtBlocks sizes start (stop - 1) else []) ++
        (if stop ≤ last then [(stop, last)] else [])

/-- The bytes that a code point is stored in. -/
def bytesOfPoint (point : Nat) : List UInt8 :=
  String.utf8EncodeChar (Char.ofNat point)

/-- The sequences of bytes that store the characters of a set. -/
def byteSequences (set : Ranges) : List (List ByteRange) :=
  set.ranges.flatMap fun range =>
    (common [range] storedAlike).flatMap fun (first, last) =>
      (cutAtBlocks [64, 64 * 64, 64 * 64 * 64] first last).map fun (first, last) =>
        List.zipWith ByteRange.mk (bytesOfPoint first) (bytesOfPoint last)

end Ranges

end ConsumerContract
