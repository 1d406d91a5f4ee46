/-
This file searches texts for matches of regular expressions. A search keeps one
expression whose characters and sets can be marked: the marked ones have read the
character in front of the current place. With the next character the marks move
on, and at every place a match may begin. There is a match as soon as nothing
has to be read behind a mark, or nothing at all. Marks say only which matches
are under way, so the time for a character is bounded by the size of the
expression, however its repetitions are nested.
-/

import ConsumerContract.Character.Property
import ConsumerContract.Pattern.Regex

namespace ConsumerContract.Pattern

/-! ### Places -/

/-- The characters around a place in a text; none at the ends of the text. -/
structure Surroundings where
  before : Option Char
  after : Option Char
  deriving DecidableEq, Repr

/-- Whether a character is a word character of ASCII. -/
def isAsciiWord (char : Char) : Bool :=
  char.isAlphanum || char = '_'

/-- Whether there is a word character on one side of a place. -/
def isWord (unicode : Bool) (char : Option Char) : Bool :=
  char.any fun char => if unicode then Character.wordChars.contains char else isAsciiWord char

/-- Whether a condition on words holds between two sides. -/
def WordCondition.holds (before after : Bool) : WordCondition → Bool
  | boundary => before != after
  | noBoundary => before == after
  | start => !before && after
  | stop => before && !after
  | startHalf => !before
  | stopHalf => !after

/-- Whether a condition holds at a place. There is no place for a line to start or end
between a carriage return and a line feed. -/
def Condition.holds (place : Surroundings) : Condition → Bool
  | textStart => place.before.isNone
  | textEnd => place.after.isNone
  | lineStart => place.before.all (· = '\n')
  | lineEnd => place.after.all (· = '\n')
  | lineStartOrReturn =>
    place.before.all fun char => char = '\n' || char = '\r' && place.after ≠ some '\n'
  | lineEndOrReturn =>
    place.after.all fun char => char = '\r' || char = '\n' && place.before ≠ some '\r'
  | word kind unicode => kind.holds (isWord unicode place.before) (isWord unicode place.after)

/-! ### Expressions under way -/

/-- An expression in the middle of a search. Compound ones know whether they match
without reading at the current place, and whether a mark in them is at their end. -/
inductive Search where
  | empty
  | read (set : Ranges) (marked : Bool)
  | condition (kind : Condition) (holds : Bool)
  | both (passes leaves : Bool) (first second : Search)
  | either (passes leaves : Bool) (one other : Search)
  | loop (passes leaves : Bool) (content : Search)
  deriving Repr, Inhabited

namespace Search

/-- Whether an expression matches at the current place without reading. -/
def passes : Search → Bool
  | empty => true
  | read _ _ => false
  | condition _ holds => holds
  | both passes _ _ _ | either passes _ _ _ | loop passes _ _ => passes

/-- Whether a match of an expression ends at the current place after reading. -/
def leaves : Search → Bool
  | empty => false
  | read _ marked => marked
  | condition _ _ => false
  | both _ leaves _ _ | either _ leaves _ _ | loop _ leaves _ => leaves

/-- One expression behind another. -/
def followedBy (first second : Search) : Search :=
  both (first.passes && second.passes) (second.leaves || first.leaves && second.passes)
    first second

/-- A choice between two expressions. -/
def orElse (one other : Search) : Search :=
  either (one.passes || other.passes) (one.leaves || other.leaves) one other

/-- An expression once or more. -/
def repeated (content : Search) : Search :=
  loop content.passes content.leaves content

/-- A set that nothing is in. -/
def nothing : Search := read .empty false

/-! ### Building -/

/-- Joins neighbours. -/
def paired (join : Search → Search → Search) : List Search → List Search
  | one :: other :: rest => join one other :: paired join rest
  | searches => searches

theorem length_paired_le (join : Search → Search → Search) (searches : List Search) :
    (paired join searches).length ≤ searches.length := by
  fun_induction paired join searches with
  | case1 _ _ _ inductionHypothesis => simp only [List.length_cons]; omega
  | case2 => exact Nat.le_refl _

/-- Joins expressions in order, to a tree of little depth; `none` stands for no expression. -/
def joined (join : Search → Search → Search) (none : Search) : List Search → Search
  | [] => none
  | [search] => search
  | one :: other :: rest => joined join none (join one other :: paired join rest)
termination_by searches => searches.length
decreasing_by
  have := length_paired_le join rest
  simp only [List.length_cons]
  omega

/-- Copies of an expression one after the other. -/
def copies (search : Search) (count : Nat) : Search :=
  if count = 0 then empty
  else if count = 1 then search
  else
    let half := copies search (count / 2)
    if count % 2 = 0 then half.followedBy half else search.followedBy (half.followedBy half)
termination_by count

/-- An expression that is repeated from `min` to `max` times. -/
def rounds (search : Search) (min : Nat) (max : Option Nat) : Search :=
  match max with
  | some max => (search.copies min).followedBy ((search.orElse empty).copies (max - min))
  | none =>
    if min = 0 then search.repeated.orElse empty
    else (search.copies (min - 1)).followedBy search.repeated

end Search

mutual

/-- The search for an expression at a place, before anything has been read. -/
def Regex.searchAt (place : Surroundings) : Regex → Search
  | .empty => .empty
  | .text chars => .joined .followedBy .empty (chars.map fun char => .read (.single char) false)
  | .oneOf set => .read set.members false
  | .condition kind => .condition kind (kind.holds place)
  | .concatenation parts => .joined .followedBy .empty (Regex.searchesAt place parts)
  | .alternation branches => .joined .orElse .nothing (Regex.searchesAt place branches)
  | .repetition content min max _ =>
    let (min, max) := content.rounds min max
    (content.searchAt place).rounds min max
  | .group _ content => content.searchAt place

/-- The searches for some expressions. -/
def Regex.searchesAt (place : Surroundings) : List Regex → List Search
  | [] => []
  | regex :: rest => regex.searchAt place :: Regex.searchesAt place rest

end

namespace Search

/-! ### Searching -/

/-- Reads a character up to the next place. A match may begin in front of the character
where `entered` is true. -/
def next (char : Char) (place : Surroundings) (entered : Bool) : Search → Search
  | empty => empty
  | read set _ => read set (entered && set.contains char)
  | condition kind _ => condition kind (kind.holds place)
  | both _ _ first second =>
    (first.next char place entered).followedBy
      (second.next char place (first.leaves || entered && first.passes))
  | either _ _ one other =>
    (one.next char place entered).orElse (other.next char place entered)
  | loop _ leaves content => (content.next char place (entered || leaves)).repeated

/-- Whether a match is found at the current place or in the rest of the text. -/
def finds (search : Search) : List Char → Bool
  | [] => search.passes || search.leaves
  | char :: rest =>
    search.passes || search.leaves ||
      (search.next char ⟨some char, rest.head?⟩ true).finds rest

end Search

/-- Whether a part of a text matches. -/
def Regex.matchesIn (regex : Regex) (text : List Char) : Bool :=
  (regex.searchAt ⟨none, text.head?⟩).finds text

end ConsumerContract.Pattern
