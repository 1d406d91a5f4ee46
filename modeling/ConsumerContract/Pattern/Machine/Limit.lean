/-
This file measures the machines of whole expressions, one that reads forward and
one that reads backward, and says which expressions are small enough. A bounded
repetition consists of as many copies of its content, so that short expressions
can have large machines; measuring stops where the limit is exceeded.
-/

import ConsumerContract.Pattern.Compact
import ConsumerContract.Pattern.Machine.Sets
import ConsumerContract.Pattern.Machine.Texts

namespace ConsumerContract.Pattern.Regex

/-! ### The last state -/

mutual

/-- Whether the part for an expression ends with a state that has several ways on. What
comes behind is then one way more. -/
def endsInChoice (direction : Direction) : Regex → Bool
  | empty | text _ | oneOf _ | condition _ | alternation _ => false
  | concatenation parts =>
    match direction with
    | .forward => endsInChoiceLast direction parts
    | .backward => endsInChoiceFirst direction parts
  | repetition content min max _ =>
    match max with
    | none => 0 < min || 0 < (shortest content).getD 0
    | some max => min = max && endsInChoice direction content
  | group _ content => direction = .backward && endsInChoice direction content

/-- Whether the part for the first expression does. -/
def endsInChoiceFirst (direction : Direction) : List Regex → Bool
  | [] => false
  | part :: _ => endsInChoice direction part

/-- Whether the part for the last expression does. -/
def endsInChoiceLast (direction : Direction) : List Regex → Bool
  | [] => false
  | [part] => endsInChoice direction part
  | _ :: rest => endsInChoiceLast direction rest

end

/-- The ways that go from an expression to what is behind it, as far as they take room. -/
def waysOut (direction : Direction) (regex : Regex) : Nat :=
  if regex.endsInChoice direction then 1 else 0

/-- The ways that go from any of some expressions. -/
def waysOutOfAll (direction : Direction) (regexes : List Regex) : Nat :=
  regexes.countP (endsInChoice direction)

/-- The expressions that have another one behind them when they are read one after the other. -/
def followed (direction : Direction) (parts : List Regex) : List Regex :=
  match direction with
  | .forward => parts.dropLast
  | .backward => parts.tail

/-! ### Parts -/

/-- The text that an expression consists of. -/
def text? : Regex → Option (List Char)
  | text chars => some chars
  | _ => none

mutual

/-- The machine with the part for an expression; none if it is too large. -/
def growth (direction : Direction) : Regex → MachineSize → Option MachineSize
  | empty, size | condition _, size => size.grown (.plain 1)
  | text chars, size => size.grown (.plain (textLength chars))
  | oneOf set, size => set.growth direction size
  | concatenation parts, size => do
    let ways := waysOutOfAll direction (followed direction parts)
    let size ←
      match direction with
      | .forward => growthOfAll direction parts size
      | .backward => growthOfAllReversed direction parts size
    size.grown (.choosing 0 ways)
  | alternation branches, size =>
    match branches.mapM text? with
    | some texts => size.grown (textsSize direction texts)
    | none => do
      let ways := branches.length + waysOutOfAll direction branches
      let size ← growthOfBranches direction branches size
      size.grown (.choosing 0 ways)
  | repetition content min max _, size =>
    let waysOut := content.waysOut direction
    match max with
    | none =>
      if 0 < min then do
        let size ← MachineSize.grownTimes (growth direction content) min size
        size.grown (.choosing 1 (1 + min * waysOut))
      else if 0 < (shortest content).getD 0 then do
        let size ← size.grown (.plain 1)
        let size ← growth direction content size
        size.grown (.choosing 0 (1 + waysOut))
      else do
        let size ← growth direction content size
        size.grown (.choosing 3 (4 + waysOut))
    | some max =>
      if min = max then do
        let size ← MachineSize.grownTimes (growth direction content) min size
        size.grown (.choosing 0 ((min - 1) * waysOut))
      else if max = 1 then do
        let size ← size.grown (.plain 1)
        let size ← growth direction content size
        size.grown (.choosing 1 (2 + waysOut))
      else do
        let size ← size.grown (.plain (if min = 0 then 1 else 0))
        let size ← MachineSize.grownTimes (growth direction content) min size
        let size ← size.grown (.plain 1)
        let size ← MachineSize.grownTimes (fun size => do
            let size ← size.grown (.plain 1)
            growth direction content size) (max - min) size
        size.grown (.choosing 0 (2 * (max - min) + max * waysOut))
  | group _ content, size =>
    match direction with
    | .forward => do
      let size ← size.grown (.plain 1)
      let size ← growth direction content size
      size.grown (.choosing 1 (content.waysOut direction))
    | .backward => growth direction content size

/-- The machine with the parts for expressions from the first to the last. -/
def growthOfAll (direction : Direction) : List Regex → MachineSize → Option MachineSize
  | [], size => some size
  | part :: rest, size =>
    match growth direction part size with
    | some size => growthOfAll direction rest size
    | none => none

/-- The machine with the parts for expressions from the last to the first. -/
def growthOfAllReversed (direction : Direction) : List Regex → MachineSize → Option MachineSize
  | [], size => some size
  | part :: rest, size =>
    match growthOfAllReversed direction rest size with
    | some size => growth direction part size
    | none => none

/-- The machine with the parts for branches. The states where they part and meet again
are made as soon as there are two. -/
def growthOfBranches (direction : Direction) : List Regex → MachineSize → Option MachineSize
  | first :: second :: rest, size => do
    let size ← growth direction first size
    let size ← growth direction second size
    let size ← size.grown (.plain 2)
    growthOfAll direction rest size
  | _, size => some size

end

/-! ### Anchors -/

mutual

/-- Whether every match starts with the condition that the text starts. -/
def startsAtTextStart : Regex → Bool
  | empty | text _ | oneOf _ => false
  | condition kind => kind = .textStart
  | concatenation parts => someStartsAtTextStart parts
  | alternation branches => allStartAtTextStart branches
  | repetition content min _ _ => 0 < min && startsAtTextStart content
  | group _ content => startsAtTextStart content

/-- Whether that holds of a part before which nothing is read. -/
def someStartsAtTextStart : List Regex → Bool
  | [] => false
  | part :: rest =>
    startsAtTextStart part || part.longest = some 0 && someStartsAtTextStart rest

/-- Whether that holds of all branches. -/
def allStartAtTextStart : List Regex → Bool
  | [] => true
  | branch :: rest => startsAtTextStart branch && allStartAtTextStart rest

end

mutual

/-- Whether every match ends with the condition that the text ends. -/
def endsAtTextEnd : Regex → Bool
  | empty | text _ | oneOf _ => false
  | condition kind => kind = .textEnd
  | concatenation parts => someEndsAtTextEnd parts
  | alternation branches => allEndAtTextEnd branches
  | repetition content min _ _ => 0 < min && endsAtTextEnd content
  | group _ content => endsAtTextEnd content

/-- Whether that holds of a part behind which nothing is read. -/
def someEndsAtTextEnd : List Regex → Bool
  | [] => false
  | part :: rest =>
    someEndsAtTextEnd rest || longestInAll rest = some 0 && endsAtTextEnd part

/-- Whether that holds of all branches. -/
def allEndAtTextEnd : List Regex → Bool
  | [] => true
  | branch :: rest => endsAtTextEnd branch && allEndAtTextEnd rest

end

/-! ### The whole machine -/

/-- The machine up to the expression: a loop over what is in front of a match, unless a
match can be at one end of the text only. -/
def sizeInFront (anchored : Bool) : MachineSize :=
  if anchored then .plain 1 else .choosing 3 2

/-- The machine that finds where a match ends. The match itself is a group. -/
def forwardMachine (regex : Regex) : Option MachineSize := do
  let size ← growth .forward (.group 0 regex) (sizeInFront regex.startsAtTextStart)
  size.grown (.plain 1)

/-- The machine that finds where a match starts. -/
def backwardMachine (regex : Regex) : Option MachineSize := do
  let size ← growth .backward regex (sizeInFront regex.endsAtTextEnd)
  size.grown (.choosing 1 (regex.waysOut .backward))

/-- Whether both machines for an expression keep within the limit. -/
def isSearchable (regex : Regex) : Bool :=
  let regex := regex.compact
  regex.forwardMachine.isSome && regex.backwardMachine.isSome

end ConsumerContract.Pattern.Regex
