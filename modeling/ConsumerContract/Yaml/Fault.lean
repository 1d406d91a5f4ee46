/-
This file holds what can be wrong with a YAML document. A fault has the place
where it shows, and what was being read there with the place where that began.
-/

import ConsumerContract.TextPlace

namespace ConsumerContract.Yaml

/-- What is wrong with a document. -/
inductive Problem where
  | forbiddenCharacter (offset : Nat)
  | unexpectedCharacter
  | unexpectedSeparator
  | unexpectedEnd
  | unexpectedColon
  | unexpectedTab
  | unknownEscape
  | missingDigit
  | invalidCode
  | unsupported
  | missingColon
  | misplacedEntry
  | misplacedKey
  | misplacedValue
  | missingContent
  | missingHyphen
  | missingKey
  | unclosedSequence
  | unclosedMapping
  | unknownAnchor
  deriving DecidableEq, Repr, Inhabited

/-- The wording of a problem. -/
def Problem.message : Problem → String
  | forbiddenCharacter _ => "control characters are not allowed"
  | unexpectedCharacter => "found character that cannot start any token"
  | unexpectedSeparator => "found unexpected document indicator"
  | unexpectedEnd => "found unexpected end of stream"
  | unexpectedColon => "found unexpected ':'"
  | unexpectedTab => "found a tab character that violates indentation"
  | unknownEscape => "found unknown escape character"
  | missingDigit => "did not find expected hexdecimal number"
  | invalidCode => "found invalid Unicode character escape code"
  | unsupported => "found a construct that is not supported"
  | missingColon => "could not find expected ':'"
  | misplacedEntry => "block sequence entries are not allowed in this context"
  | misplacedKey => "mapping keys are not allowed in this context"
  | misplacedValue => "mapping values are not allowed in this context"
  | missingContent => "did not find expected node content"
  | missingHyphen => "did not find expected '-' indicator"
  | missingKey => "did not find expected key"
  | unclosedSequence => "did not find expected ',' or ']'"
  | unclosedMapping => "did not find expected ',' or '\x7d'"
  | unknownAnchor => "unknown anchor"

/-- What was being read. -/
inductive Activity where
  | nextToken
  | quotedScalar
  | quotedEscape
  | plainScalar
  | simpleKey
  | blockNode
  | flowNode
  | blockSequence
  | blockMapping
  | flowSequence
  | flowMapping
  deriving DecidableEq, Repr, Inhabited

/-- The wording of an activity. -/
def Activity.message : Activity → String
  | nextToken => "while scanning for the next token"
  | quotedScalar => "while scanning a quoted scalar"
  | quotedEscape => "while parsing a quoted scalar"
  | plainScalar => "while scanning a plain scalar"
  | simpleKey => "while scanning a simple key"
  | blockNode => "while parsing a block node"
  | flowNode => "while parsing a flow node"
  | blockSequence => "while parsing a block collection"
  | blockMapping => "while parsing a block mapping"
  | flowSequence => "while parsing a flow sequence"
  | flowMapping => "while parsing a flow mapping"

/-- A problem, where it shows, and what had begun where. -/
structure Fault where
  problem : Problem
  place : TextPlace
  during : Option (Activity × TextPlace) := none
  deriving DecidableEq, Repr, Inhabited

namespace Fault

/-- The words for a place, none for the start of a text. -/
def placeText (place : TextPlace) : String :=
  if place = ⟨1, 1⟩ then "" else " at " ++ place.text

/-- The words for where a problem shows. A character that may not be in a document is looked
for before there are lines. -/
def problemPlace (fault : Fault) : String :=
  match fault.problem with
  | .forbiddenCharacter 0 => ""
  | .forbiddenCharacter offset => " at position " ++ decimalText offset
  | _ => placeText fault.place

/-- The words for what was being read. A place is given only once. -/
def activityText (fault : Fault) : String :=
  match fault.during with
  | none => ""
  | some (activity, start) =>
    ", " ++ activity.message ++ if start = fault.place then "" else placeText start

/-- The wording of a fault. -/
def message (fault : Fault) : String :=
  fault.problem.message ++ fault.problemPlace ++ fault.activityText

end Fault

end ConsumerContract.Yaml
