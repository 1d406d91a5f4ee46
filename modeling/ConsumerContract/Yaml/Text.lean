/-
This file holds the texts of YAML documents. Every character is put together
with its place, and a text ends with a mark, so that the end has a place as well.
Control characters are not allowed anywhere, which is why a NUL can be the mark.
-/

import ConsumerContract.TextPlace

namespace ConsumerContract.Yaml

/-- A character of a text, its place, and how many characters are in front of it. -/
structure PlacedChar where
  char : Char
  place : TextPlace
  index : Nat
  deriving DecidableEq, Repr, Inhabited

/-- What is left of a text. -/
abbrev Text := List PlacedChar

/-! ### Characters -/

/-- The character behind the end of a text. -/
def endMark : Char := '\x00'

/-- Blanks on a line. -/
def isBlank (char : Char) : Bool :=
  char = ' ' || char = '\t'

/-- The ends of lines. -/
def isBreak (char : Char) : Bool :=
  char = '\n' || char = '\u2028' || char = '\u2029'

/-- Blanks and the ends of lines. -/
def isGap (char : Char) : Bool :=
  isBlank char || isBreak char

/-- The marks of collections in flow style. -/
def isFlowMark (char : Char) : Bool :=
  [',', '[', ']', '\x7b', '\x7d'].contains char

/-- Whether a character may be in a document. -/
def isAllowed (char : Char) : Bool :=
  char = '\t' || char = '\n' || char = '\r' || (' ' ≤ char && char ≤ '~') || char = '\u0085' ||
    ('\u00A0' ≤ char && char ≠ '\uFFFE' && char ≠ '\uFFFF')

/-- The byte at which the first character is that may not be in a document. -/
def forbiddenAt? (offset : Nat) : List Char → Option Nat
  | [] => none
  | char :: rest =>
    if isAllowed char then forbiddenAt? (offset + char.utf8Size) rest else some offset

namespace Text

/-! ### Places -/

/-- A text with the places of its characters. The usual line breaks become the same one. -/
def placed (line column index : Nat) : List Char → Text
  | [] => [⟨endMark, ⟨line, column⟩, index⟩]
  | '\r' :: '\n' :: rest => ⟨'\n', ⟨line, column⟩, index⟩ :: placed (line + 1) 1 (index + 2) rest
  | '\r' :: rest | '\n' :: rest | '\u0085' :: rest =>
    ⟨'\n', ⟨line, column⟩, index⟩ :: placed (line + 1) 1 (index + 1) rest
  | char :: rest =>
    ⟨char, ⟨line, column⟩, index⟩ ::
      if isBreak char then placed (line + 1) 1 (index + 1) rest
      else placed line (column + 1) (index + 1) rest

/-- The characters of a text; a byte order mark in front does not count. -/
def ofString (text : String) : Text :=
  match text.toList with
  | '\uFEFF' :: rest => placed 1 1 0 rest
  | chars => placed 1 1 0 chars

/-- The next character. -/
def char (text : Text) : Char :=
  (text.head?.map (·.char)).getD endMark

/-- The place of the next character. -/
def place (text : Text) : TextPlace :=
  (text.head?.map (·.place)).getD ⟨1, 1⟩

/-- How many characters are in front of the next one. -/
def index (text : Text) : Nat :=
  (text.head?.map (·.index)).getD 0

/-- Whether a word ends here. -/
def atWordEnd (text : Text) : Bool :=
  isGap text.char || text.char = endMark

/-- Whether a mark that is three times the same character stands at the start of a line. -/
def atDocumentMark (mark : Char) : Text → Bool
  | first :: second :: third :: rest =>
    first.place.column = 1 && [first, second, third].all (·.char = mark) && atWordEnd rest
  | _ => false

/-- Whether documents are separated here. -/
def atSeparator (text : Text) : Bool :=
  text.atDocumentMark '-' || text.atDocumentMark '.'

end Text

end ConsumerContract.Yaml
