/-
This file holds patterns, the regular expressions that examples are checked
with. A pattern is a text that has been read successfully; whether it matches is
asked of any part of a text, unless the pattern itself is anchored.
-/

import ConsumerContract.Pattern.Machine.Limit
import ConsumerContract.Pattern.Meaning
import ConsumerContract.Pattern.Reader
import ConsumerContract.Pattern.Search

namespace ConsumerContract

/-- A regular expression with its text. -/
structure Pattern where
  text : String
  regex : Pattern.Regex

namespace Pattern

/-- Why a text is no pattern. -/
inductive Refusal where
  | malformed (fault : SyntaxFault)
  | tooLarge
  deriving Repr

/-- The report of a refused text. -/
def Refusal.report (text : String) : Refusal → String
  | malformed fault => fault.report text.toList
  | tooLarge => "Compiled regex exceeds size limit of " ++ decimalText sizeLimit ++ " bytes."

/-- The expression that a text stands for, if it is well formed. -/
def regexOf (text : String) : Except SyntaxFault Regex := do
  let tree ← Tree.ofText text.toList
  tree.checkNesting nestingLimit
  let (regex, _) ← tree.meaning {}
  .ok regex

/-- Reads a pattern. -/
def compile (text : String) : Except Refusal Pattern :=
  match regexOf text with
  | .error fault => .error (.malformed fault)
  | .ok regex => if regex.isSearchable then .ok { text, regex } else .error .tooLarge

/-- Whether the pattern matches some part of a text. -/
def matchesIn (pattern : Pattern) (text : String) : Bool :=
  pattern.regex.matchesIn text.toList

/-- How many groups the pattern captures. -/
def groupCount (pattern : Pattern) : Nat :=
  pattern.regex.groupCount

/-- A text in which every character stands for itself when it is read as a pattern. -/
def escaped (text : String) : String :=
  String.ofList (text.toList.flatMap fun char => if isSpecial char then ['\\', char] else [char])

end Pattern

end ConsumerContract
