/-
This file measures the part of a machine that reads a character of a set. ASCII
characters are read by one state. Other sets are read byte by byte, and states
that read the same and go on to the same are shared, as far as they are
remembered: a state is remembered in a slot, until another one takes the slot.
-/

import Std.Data.HashMap
import ConsumerContract.Character.ByteSequences
import ConsumerContract.Pattern.Machine.Size

namespace ConsumerContract.Pattern

/-- A way on: a byte of the range is read, and then comes the state of a number. -/
structure Way where
  range : ByteRange
  next : Nat
  deriving DecidableEq, Repr

/-! ### Slots -/

/-- The start of a fingerprint. -/
def fingerprintStart : UInt64 := 0xCBF29CE484222325

/-- A fingerprint with one more number. -/
def fingerprint (print number : UInt64) : UInt64 :=
  (print ^^^ number) * 0x100000001B3

/-- The slot of a state with some ways on, of ten thousand. -/
def slotOfWays (ways : List Way) : UInt64 :=
  ways.foldl (fun print way =>
    [way.range.first.toUInt64, way.range.last.toUInt64, way.next.toUInt64].foldl fingerprint print)
    fingerprintStart % 10000

/-- The slot of a state with one way on, of one thousand. -/
def slotOfWay (way : Way) : UInt64 :=
  [way.next.toUInt64, way.range.first.toUInt64, way.range.last.toUInt64].foldl fingerprint
    fingerprintStart % 1000

/-- A machine that remembers states by what they do. -/
structure Remembering (Action : Type) where
  size : MachineSize
  slots : Std.HashMap UInt64 (Action × Nat) := {}

/-- The number of the state that does something; a new state if none is remembered. -/
def Remembering.state {Action : Type} [DecidableEq Action] (machine : Remembering Action)
    (action : Action) (slot : UInt64) (more : MachineSize) : Nat × Remembering Action :=
  let create : Nat × Remembering Action :=
    (machine.size.states,
      { size := machine.size.plus more
        slots := machine.slots.insert slot (action, machine.size.states) })
  match machine.slots[slot]? with
  | some (known, number) => if known = action then (number, machine) else create
  | none => create

/-! ### Reading forward -/

/-- Whether two sequences start with the same range. -/
def startAlike (one other : List ByteRange) : Bool :=
  one.head? = other.head?

/-- The first state of those that read one of some sequences of at most `depth` bytes and
go on to `target`. Sequences with the same start go on together. -/
def readOneOf (target : Nat) : Nat → List (List ByteRange) → Remembering (List Way) →
    Nat × Remembering (List Way)
  | 0, _, machine => (target, machine)
  | depth + 1, sequences, machine =>
    if sequences.all (·.isEmpty) then (target, machine)
    else
      let (ways, machine) := (sequences.splitBy startAlike).foldl (fun (ways, machine) group =>
        let (next, machine) := readOneOf target depth (group.map (·.tail)) machine
        (ways ++ (group.head?.bind (·.head?)).toList.map (⟨·, next⟩), machine)) ([], machine)
      machine.state ways (slotOfWays ways) ⟨1, 8 * ways.length⟩

/-- The machine with the states that read a character of a set. -/
def sizeWithForward (set : Ranges) (size : MachineSize) : MachineSize :=
  (readOneOf size.states 4 set.byteSequences { size := size.plus (.plain 1) }).2.size

/-! ### Reading backward -/

/-- The machine with the states that read a sequence from its end and go on to `target`. -/
def readBack (target : Nat) (machine : Remembering Way) (sequence : List ByteRange) :
    Remembering Way :=
  (sequence.foldl (fun (next, machine) range =>
    machine.state ⟨range, next⟩ (slotOfWay ⟨range, next⟩) (.plain 1)) (target, machine)).2

/-- The machine with the states that read a character of a set from its last byte. -/
def sizeWithBackward (set : Ranges) (size : MachineSize) : MachineSize :=
  let sequences := set.byteSequences
  (sequences.foldl (readBack (size.states + 1))
    { size := size.plus (.choosing 2 sequences.length) }).size

/-! ### Both directions -/

/-- The machine with the states that read a character of a set; none if it is too large. -/
def CharSet.growth (direction : Direction) (set : CharSet) (size : MachineSize) :
    Option MachineSize :=
  if set.members.isAscii then
    size.grown ((MachineSize.plain 1).plus (.reading set.members.ranges.length))
  else
    match direction with
    | .forward => (sizeWithForward set.members size).grown {}
    | .backward => (sizeWithBackward set.members size).grown {}

end ConsumerContract.Pattern
