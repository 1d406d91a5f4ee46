/-
This file holds what can be wrong with a regular expression and how it is
reported: the expression is repeated with carets under the offending part. A
part is a pair of places, and a place is the text from there to the end of the
expression, which is what a reader of the expression knows at every step.
-/

import ConsumerContract.Number.Digits

namespace ConsumerContract.Pattern

/-- A part of an expression: the text from its start on, and the text behind it. -/
structure Span where
  first : List Char
  last : List Char
  deriving DecidableEq, Repr, Inhabited

/-- The part from the start of one part to the end of another. -/
def Span.to (one other : Span) : Span :=
  ⟨one.first, other.last⟩

/-- How deep groups, classes and repetitions may be nested. -/
def nestingLimit : Nat := 250

/-- What is wrong with an expression. -/
inductive Fault where
  | classEscapeInvalid
  | classRangeInvalid
  | classRangeLiteral
  | classUnclosed
  | decimalInvalid
  | escapeHexEmpty
  | escapeHexInvalid
  | escapeHexInvalidDigit
  | escapeUnexpectedEnd
  | escapeUnrecognized
  | flagDanglingNegation
  | flagDuplicate
  | flagRepeatedNegation
  | flagUnexpectedEnd
  | flagUnrecognized
  | groupNameDuplicate
  | groupNameEmpty
  | groupNameInvalid
  | groupNameUnexpectedEnd
  | groupUnclosed
  | groupUnopened
  | repetitionCountInvalid
  | repetitionCountMissing
  | repetitionCountUnclosed
  | repetitionMissing
  | wordBoundaryUnclosed
  | wordBoundaryUnrecognized
  | wordBoundaryUnexpectedEnd
  | propertyNameInvalid
  | propertyUnknown
  | propertyValueUnknown
  | backreference
  | lookAround
  | nestingTooDeep
  | unicodeNeeded
  | invalidText
  deriving DecidableEq, Repr, Inhabited

/-- The wording of a fault. -/
def Fault.message : Fault → String
  | classEscapeInvalid => "invalid escape sequence found in character class"
  | classRangeInvalid => "invalid character class range, the start must be <= the end"
  | classRangeLiteral => "invalid range boundary, must be a literal"
  | classUnclosed => "unclosed character class"
  | decimalInvalid => "decimal literal invalid"
  | escapeHexEmpty => "hexadecimal literal empty"
  | escapeHexInvalid => "hexadecimal literal is not a Unicode scalar value"
  | escapeHexInvalidDigit => "invalid hexadecimal digit"
  | escapeUnexpectedEnd => "incomplete escape sequence, reached end of pattern prematurely"
  | escapeUnrecognized => "unrecognized escape sequence"
  | flagDanglingNegation => "dangling flag negation operator"
  | flagDuplicate => "duplicate flag"
  | flagRepeatedNegation => "flag negation operator repeated"
  | flagUnexpectedEnd => "expected flag but got end of regex"
  | flagUnrecognized => "unrecognized flag"
  | groupNameDuplicate => "duplicate capture group name"
  | groupNameEmpty => "empty capture group name"
  | groupNameInvalid => "invalid capture group character"
  | groupNameUnexpectedEnd => "unclosed capture group name"
  | groupUnclosed => "unclosed group"
  | groupUnopened => "unopened group"
  | repetitionCountInvalid => "invalid repetition count range, the start must be <= the end"
  | repetitionCountMissing => "repetition quantifier expects a valid decimal"
  | repetitionCountUnclosed => "unclosed counted repetition"
  | repetitionMissing => "repetition operator missing expression"
  | wordBoundaryUnclosed =>
    "special word boundary assertion is either unclosed or contains an invalid character"
  | wordBoundaryUnrecognized =>
    "unrecognized special word boundary assertion, valid choices are: start, end, start-half " ++
      "or end-half"
  | wordBoundaryUnexpectedEnd =>
    "found either the beginning of a special word boundary or a bounded repetition on a \\b " ++
      "with an opening brace, but no closing brace"
  | propertyNameInvalid => "invalid Unicode character class"
  | propertyUnknown => "Unicode property not found"
  | propertyValueUnknown => "Unicode property value not found"
  | backreference => "backreferences are not supported"
  | lookAround => "look-around, including look-ahead and look-behind, is not supported"
  | nestingTooDeep =>
    "exceed the maximum number of nested parentheses/brackets (" ++ decimalText nestingLimit ++ ")"
  | unicodeNeeded => "Unicode not allowed here"
  | invalidText => "pattern can match invalid UTF-8"

/-- A fault with its place, and a second place where two parts are in conflict. -/
structure SyntaxFault where
  fault : Fault
  span : Span
  earlier : Option Span := none
  deriving DecidableEq, Repr, Inhabited

/-! ### Reporting -/

/-- A place by line and column, both counted from zero. -/
structure Place where
  line : Nat
  column : Nat
  deriving DecidableEq, Repr

/-- The place at which `rest` is left of an expression. -/
def Place.ofRest (expression rest : List Char) : Place :=
  let before := expression.take (expression.length - rest.length)
  { line := before.count '\n'
    column := (before.reverse.takeWhile (· ≠ '\n')).length }

/-- The lines of an expression; a last empty line is none, and a carriage return
at the end of a line is left out. -/
def lines (expression : List Char) : List (List Char) :=
  let pieces := expression.splitOn '\n'
  let pieces := if pieces.getLast? = some [] then pieces.dropLast else pieces
  pieces.map fun line => if line.getLast? = some '\r' then line.dropLast else line

/-- Carets under parts of one line, which are given in order. -/
def carets (column : Nat) : List (Place × Place) → List Char
  | [] => []
  | (first, last) :: rest =>
    let count := max 1 (last.column - first.column)
    List.replicate (first.column - column) ' ' ++ List.replicate count '^' ++
      carets (max column first.column + count) rest

/-- Two places in order. -/
def inOrder (parts : List (Place × Place)) : List (Place × Place) :=
  match parts with
  | [one, other] =>
    if other.1.line < one.1.line ∨ (other.1.line = one.1.line ∧ other.1.column < one.1.column)
    then [other, one] else parts
  | _ => parts

/-- A number with blanks in front up to a width. -/
def rightAligned (width number : Nat) : String :=
  let text := decimalText number
  String.ofList (List.replicate (width - text.length) ' ') ++ text

/-- The expression line by line, each followed by its carets. Several lines are numbered. -/
def annotated (expression : List Char) (parts : List (Place × Place)) : String :=
  let shown := lines expression
  let lineCount := shown.length + (if expression.getLast? = some '\n' then 1 else 0)
  let width := if lineCount ≤ 1 then 0 else (decimalText lineCount).length
  let margin := if width = 0 then 4 else width + 2
  String.join <| shown.zipIdx.map fun (line, number) =>
    let own := parts.filter fun (first, last) => first.line = number && last.line = number
    (if width = 0 then "    " else rightAligned width (number + 1) ++ ": ") ++
      String.ofList line ++ "\n" ++
      if own.isEmpty then ""
      else String.ofList (List.replicate margin ' ' ++ carets 0 own) ++ "\n"

/-- The remark on a part that goes over several lines. -/
def severalLines (part : Place × Place) : String :=
  "on line " ++ decimalText (part.1.line + 1) ++ " (column " ++ decimalText (part.1.column + 1) ++
    ") through line " ++ decimalText (part.2.line + 1) ++ " (column " ++
    decimalText part.2.column ++ ")"

/-- The report of a fault in an expression. -/
def SyntaxFault.report (fault : SyntaxFault) (expression : List Char) : String :=
  let place (span : Span) : Place × Place :=
    (.ofRest expression span.first, .ofRest expression span.last)
  let parts := inOrder (place fault.span :: (fault.earlier.map place).toList)
  let body := annotated expression parts
  if expression.contains '\n' then
    let divider := String.ofList (List.replicate 79 '~') ++ "\n"
    let long := parts.filter fun (first, last) => first.line ≠ last.line
    "regex parse error:\n" ++ divider ++ body ++ divider ++
      (if long.isEmpty then "" else "\n".intercalate (long.map severalLines) ++ "\n") ++
      "error: " ++ fault.fault.message
  else "regex parse error:\n" ++ body ++ "error: " ++ fault.fault.message

end ConsumerContract.Pattern
