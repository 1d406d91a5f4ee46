/-
This file holds regular expressions by their meaning: texts, sets of characters,
conditions on a place, and the combinations of these. Flags have been applied,
and nothing refers to the text that the expression was read from.
-/

import ConsumerContract.Character.Ranges

namespace ConsumerContract.Pattern

/-- A set of characters. A set that was written without Unicode has ASCII characters only. -/
structure CharSet where
  unicode : Bool
  members : Ranges
  deriving DecidableEq, Repr, Inhabited

/-- Conditions on the word characters around a place. -/
inductive WordCondition where
  | boundary
  | noBoundary
  | start
  | stop
  | startHalf
  | stopHalf
  deriving DecidableEq, Repr

/-- Conditions on a place. A line may end with a carriage return as well, and words
may be those of all scripts or of ASCII. -/
inductive Condition where
  | textStart
  | textEnd
  | lineStart
  | lineEnd
  | lineStartOrReturn
  | lineEndOrReturn
  | word (kind : WordCondition) (unicode : Bool)
  deriving DecidableEq, Repr

/-- A regular expression. Groups that capture are numbered from one on. Of two
repetitions the greedy one prefers more rounds, which changes what is found
first but not whether anything is. -/
inductive Regex where
  | empty
  | text (chars : List Char)
  | oneOf (set : CharSet)
  | condition (kind : Condition)
  | concatenation (parts : List Regex)
  | alternation (branches : List Regex)
  | repetition (content : Regex) (min : Nat) (max : Option Nat) (greedy : Bool)
  | group (number : Nat) (content : Regex)
  deriving Repr, Inhabited

namespace Regex

mutual

/-- The greatest number of a group that can take part in a match. -/
def groupCount : Regex → Nat
  | empty | text _ | oneOf _ | condition _ => 0
  | concatenation parts => groupCountOfAll parts
  | alternation branches => groupCountOfAll branches
  | repetition content _ max _ => if max = some 0 then 0 else groupCount content
  | group number content => max number (groupCount content)

/-- The greatest number of a group in some expressions. -/
def groupCountOfAll : List Regex → Nat
  | [] => 0
  | regex :: rest => max (groupCount regex) (groupCountOfAll rest)

end

/-! ### How long a match is -/

/-- The length of a text in bytes. -/
def textLength (chars : List Char) : Nat :=
  chars.foldl (fun length char => length + char.utf8Size) 0

mutual

/-- The length in bytes of the shortest match; none if a set without members is in the way. -/
def shortest : Regex → Option Nat
  | empty | condition _ => some 0
  | text chars => some (textLength chars)
  | oneOf set => set.members.ranges.head?.map fun (first, _) => (Char.ofNat first).utf8Size
  | concatenation parts => shortestInAll parts
  | alternation branches => shortestOfAny branches
  | repetition content min _ _ => (shortest content).map (· * min)
  | group _ content => shortest content

/-- The length of the shortest match of expressions one after the other. -/
def shortestInAll : List Regex → Option Nat
  | [] => some 0
  | part :: rest =>
    match shortest part, shortestInAll rest with
    | some length, some others => some (length + others)
    | _, _ => none

/-- The length of the shortest match of one of some expressions. -/
def shortestOfAny : List Regex → Option Nat
  | [] => none
  | [branch] => shortest branch
  | branch :: rest =>
    match shortest branch, shortestOfAny rest with
    | some length, some others => some (min length others)
    | _, _ => none

end

mutual

/-- The length in bytes of the longest match; none if there is no bound or no match. -/
def longest : Regex → Option Nat
  | empty | condition _ => some 0
  | text chars => some (textLength chars)
  | oneOf set => set.members.ranges.getLast?.map fun (_, last) => (Char.ofNat last).utf8Size
  | concatenation parts => longestInAll parts
  | alternation branches => longestOfAny branches
  | repetition content _ max _ =>
    match max, longest content with
    | some 0, _ => some 0
    | some max, some length => some (length * max)
    | _, _ => none
  | group _ content => longest content

/-- The length of the longest match of expressions one after the other. -/
def longestInAll : List Regex → Option Nat
  | [] => some 0
  | part :: rest =>
    match longest part, longestInAll rest with
    | some length, some others => some (length + others)
    | _, _ => none

/-- The length of the longest match of one of some expressions. -/
def longestOfAny : List Regex → Option Nat
  | [] => none
  | [branch] => longest branch
  | branch :: rest =>
    match longest branch, longestOfAny rest with
    | some length, some others => some (max length others)
    | _, _ => none

end

/-- Whether an expression has matches, and none of them reads a character. -/
def readsNothing (regex : Regex) : Bool :=
  regex.longest = some 0

/-- How often a repetition has to be and can be tried. A content that reads nothing
matches once or never, however often it is repeated. -/
def rounds (content : Regex) (min : Nat) (max : Option Nat) : Nat × Option Nat :=
  if content.readsNothing then
    (Nat.min min 1, some ((max.map (Nat.min · 1)).getD 1))
  else (min, max)

end Regex

end ConsumerContract.Pattern
