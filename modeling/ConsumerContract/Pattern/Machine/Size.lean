/-
This file holds the size of the machines that search with regular expressions.
A machine consists of states that take the same room each; a state with several
ways on takes more for each of them. An expression whose machine would be too
large is refused, so growing is an operation that may fail.
-/

import ConsumerContract.Pattern.Regex

namespace ConsumerContract.Pattern

/-- The size of a machine: its states, and the bytes for further ways on. -/
structure MachineSize where
  states : Nat := 0
  ways : Nat := 0
  deriving DecidableEq, Repr, Inhabited

/-- How many bytes a machine may take. -/
def sizeLimit : Nat := 10485760

namespace MachineSize

/-- The bytes that a machine takes. -/
def bytes (size : MachineSize) : Nat :=
  32 * size.states + size.ways

/-- The size of two machines together. -/
def plus (size other : MachineSize) : MachineSize :=
  ⟨size.states + other.states, size.ways + other.ways⟩

/-- The size of some machines together. -/
def total (sizes : List MachineSize) : MachineSize :=
  sizes.foldl plus {}

/-- The size of some states with a choice of ways on, which take four bytes each. -/
def choosing (states ways : Nat) : MachineSize :=
  ⟨states, 4 * ways⟩

/-- The size of one state that goes on with one of several ranges of bytes. -/
def reading (ranges : Nat) : MachineSize :=
  ⟨1, if ranges = 1 then 0 else 8 * ranges⟩

/-- The size of some states with one way on, or none. -/
def plain (states : Nat) : MachineSize :=
  ⟨states, 0⟩

/-- The machine with more states and ways; none if it becomes too large. -/
def grown (size more : MachineSize) : Option MachineSize :=
  let size := size.plus more
  if size.bytes ≤ sizeLimit then some size else none

/-- The machine that has grown some times in the same way. -/
def grownTimes (growth : MachineSize → Option MachineSize) : Nat → MachineSize →
    Option MachineSize
  | 0, size => some size
  | count + 1, size =>
    match growth size with
    | some size => grownTimes growth count size
    | none => none

end MachineSize

/-- The direction that a machine reads a text in. A match is found forward, and its
start is found backward from its end. -/
inductive Direction where
  | forward
  | backward
  deriving DecidableEq, Repr

end ConsumerContract.Pattern
