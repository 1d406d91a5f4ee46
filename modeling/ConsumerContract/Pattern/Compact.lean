/-
This file brings regular expressions into a compact form, which is the form
their size is measured in. Characters in a row become one text, a choice of
characters becomes a set, and what all branches of a choice start with is moved
in front of it.
-/

import ConsumerContract.Pattern.Regex

namespace ConsumerContract.Pattern.Regex

/-! ### Equality -/

mutual

/-- Whether two expressions are the same. -/
def isSame : Regex → Regex → Bool
  | empty, empty => true
  | text chars, text others => chars == others
  | oneOf set, oneOf other => set == other
  | condition kind, condition other => kind == other
  | concatenation parts, concatenation others => areSame parts others
  | alternation branches, alternation others => areSame branches others
  | repetition content min max greedy, repetition other otherMin otherMax otherGreedy =>
    min == otherMin && max == otherMax && greedy == otherGreedy && isSame content other
  | group number content, group other otherContent =>
    number == other && isSame content otherContent
  | _, _ => false

/-- Whether expressions are the same one by one. -/
def areSame : List Regex → List Regex → Bool
  | [], [] => true
  | regex :: rest, other :: others => isSame regex other && areSame rest others
  | _, _ => false

end

/-! ### Building compact expressions -/

/-- A set in compact form: the only member of a set is a text. -/
def compactSet (set : CharSet) : Regex :=
  if set.members.ranges.isEmpty then oneOf ⟨false, .empty⟩
  else
    match set.members.onlyChar? with
    | some char => text [char]
    | none => oneOf set

/-- The parts of a concatenation; all else is a part by itself, and the empty expression none. -/
def parts : Regex → List Regex
  | empty => []
  | concatenation parts => parts
  | regex => [regex]

/-- Puts a part in front of others. Two texts become one. -/
def consPart : Regex → List Regex → List Regex
  | text chars, text others :: rest => text (chars ++ others) :: rest
  | part, rest => part :: rest

/-- Compact expressions one after the other. -/
def compactConcatenation (regexes : List Regex) : Regex :=
  match (regexes.flatMap parts).foldr consPart [] with
  | [] => empty
  | [part] => part
  | parts => concatenation parts

/-- The branches of an alternation; all else is a branch by itself. -/
def branches : Regex → List Regex
  | alternation branches => branches
  | regex => [regex]

/-- The character that a text of one character consists of. -/
def onlyChar? : Regex → Option Char
  | text [char] => some char
  | _ => none

/-- The members of a set. -/
def members? : Regex → Option Ranges
  | oneOf set => some set.members
  | _ => none

/-- The set of branches that are characters, or that are sets. -/
def choice? (branches : List Regex) : Option Ranges :=
  match branches.mapM onlyChar? with
  | some chars => some (.unions (chars.map .single))
  | none => (branches.mapM members?).map .unions

/-- A choice between compact branches with nothing in common at their start. -/
def compactChoice (regexes : List Regex) : Regex :=
  match regexes.flatMap branches with
  | [branch] => branch
  | branches =>
    match choice? branches with
    | some members => compactSet ⟨true, members⟩
    | none => alternation branches

/-- How many parts two lists have in common at their start. -/
def commonCount : List Regex → List Regex → Nat
  | part :: rest, other :: others => if part.isSame other then commonCount rest others + 1 else 0
  | _, _ => 0

/-- The parts of a concatenation alone. -/
def concatenated? : Regex → Option (List Regex)
  | concatenation parts => some parts
  | _ => none

/-- The parts that all branches start with, and what is left of each branch. -/
def sharedStart? (branches : List Regex) : Option (List Regex × List (List Regex)) :=
  match branches.mapM concatenated? with
  | some (first :: others) =>
    let count := others.foldl (fun count parts => min count (commonCount first parts)) first.length
    if count = 0 then none
    else some (first.take count, (first :: others).map (·.drop count))
  | _ => none

/-- A choice between compact branches. What they all start with comes first. -/
def compactAlternation (regexes : List Regex) : Regex :=
  match compactChoice regexes with
  | alternation branches =>
    match sharedStart? branches with
    | some (start, rests) =>
      compactConcatenation (start ++ [compactChoice (rests.map compactConcatenation)])
    | none => alternation branches
  | regex => regex

/-- A repetition of a compact expression. -/
def compactRepetition (content : Regex) (min : Nat) (max : Option Nat) (greedy : Bool) : Regex :=
  match content.rounds min max with
  | (0, some 0) => empty
  | (1, some 1) => content
  | (min, max) => repetition content min max greedy

/-! ### The compact form -/

mutual

/-- The compact form of an expression. -/
def compact : Regex → Regex
  | empty => empty
  | text chars => text chars
  | oneOf set => compactSet set
  | condition kind => condition kind
  | concatenation parts => compactConcatenation (compactAll parts)
  | alternation branches => compactAlternation (compactAll branches)
  | repetition content min max greedy => compactRepetition (compact content) min max greedy
  | group number content => group number (compact content)

/-- The compact forms of expressions. -/
def compactAll : List Regex → List Regex
  | [] => []
  | regex :: rest => compact regex :: compactAll rest

end

end ConsumerContract.Pattern.Regex
