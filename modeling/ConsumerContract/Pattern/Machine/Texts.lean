/-
This file measures the part of a machine that reads one of several texts. It is
a tree: texts with the same bytes so far are at the same node. A text that ends
at a node comes before those that are listed behind it, so it separates the
texts in front of it from those behind, and these share nothing from there on.
-/

import ConsumerContract.Pattern.Machine.Size

namespace ConsumerContract.Pattern

/-- A text as bytes, in the order in which they are read. -/
def bytesInOrder (direction : Direction) (chars : List Char) : List UInt8 :=
  let bytes := chars.flatMap String.utf8EncodeChar
  match direction with
  | .forward => bytes
  | .backward => bytes.reverse

/-- The bytes that some texts start with. -/
def firstBytes (texts : List (List UInt8)) : List UInt8 :=
  (texts.filterMap (·.head?)).eraseDups

/-- What follows a byte in the texts that start with it. -/
def behindByte (texts : List (List UInt8)) (byte : UInt8) : List (List UInt8) :=
  texts.filterMap fun text => if text.head? = some byte then some text.tail else none

/-- The texts at a node in the groups that texts which end there leave. At a node that
starts with such texts, the first of them counts. -/
def groupsAtNode : List (List UInt8) → List (List (List UInt8))
  | [] :: [] :: rest => groupsAtNode ([] :: rest)
  | texts => texts.splitOn []

/-- The size of one node: a state for each group that goes on, and a choice between these
and, once for each further group, the end. -/
def nodeSize (texts : List (List UInt8)) : MachineSize :=
  let groups := groupsAtNode texts
  let going := groups.filter (!·.isEmpty)
  (MachineSize.total (going.map fun group => .reading (firstBytes group).length)).plus
    (.choosing 1 (going.length + (groups.length - 1)))

/-- The nodes below one, apart from those where all texts end. -/
def nodesBelow (texts : List (List UInt8)) : List (List (List UInt8)) :=
  (groupsAtNode texts).flatMap fun group =>
    ((firstBytes group).map (behindByte group)).filter (!·.all (·.isEmpty))

/-- The size of some nodes and those at most `depth` steps below them. -/
def treeSize : Nat → List (List (List UInt8)) → MachineSize → MachineSize
  | 0, _, size => size
  | depth + 1, nodes, size =>
    treeSize depth (nodes.flatMap nodesBelow) (size.plus (.total (nodes.map nodeSize)))

/-- The size of the part that reads one of some texts. All of them end in one more state. -/
def textsSize (direction : Direction) (texts : List (List Char)) : MachineSize :=
  let texts := texts.map (bytesInOrder direction)
  treeSize ((texts.map (·.length)).foldl max 0) [texts] (.plain 1)

end ConsumerContract.Pattern
