/-
This file reads scalars, in quotes and without. Blanks and line breaks between
words are kept back until it is known that something follows: at the end of a
plain scalar they do not count, and a line break in between stands for a blank.
-/

import ConsumerContract.Yaml.Fault
import ConsumerContract.Yaml.Meaning
import ConsumerContract.Yaml.Text

namespace ConsumerContract.Yaml

/-! ### Gaps -/

/-- Blanks and line breaks between two words. A line break that is escaped is not among
them, but what follows it is read as behind a line break. -/
structure Gap where
  /-- The characters, the last one first. -/
  chars : List Char := []
  escaped : Bool := false
  deriving Repr, Inhabited

namespace Gap

/-- The gap with a character more. -/
def push (gap : Gap) (char : Char) : Gap :=
  { gap with chars := char :: gap.chars }

/-- Whether a line ended in the gap. -/
def hasBreak (gap : Gap) : Bool :=
  gap.escaped || gap.chars.any isBreak

/-- What a gap stands for. A single line break is a blank, and of several ones all but the
first are kept; separators of lines and paragraphs are always kept. -/
def folded (gap : Gap) : List Char :=
  if !gap.hasBreak then gap.chars.reverse
  else
    match gap.escaped, gap.chars.reverse.filter isBreak with
    | false, ['\n'] => [' ']
    | false, '\n' :: breaks => breaks
    | _, breaks => breaks

/-- The characters in front of a gap and those of the gap itself, the last one first. -/
def behind (gap : Gap) (read : List Char) : List Char :=
  gap.folded.reverse ++ read

end Gap

/-! ### Single quotes -/

/-- A scalar that was read: its text and what is behind it. -/
abbrev ScalarResult := Except Fault (String × Text)

/-- What is not expected inside quotes: documents that are separated, and the end. -/
def quotedEnd? (start : TextPlace) (text : Text) : Option Fault :=
  if text.atSeparator then some ⟨.unexpectedSeparator, text.place, some (.quotedScalar, start)⟩
  else if text.char = endMark then some ⟨.unexpectedEnd, text.place, some (.quotedScalar, start)⟩
  else none

/-- The rest of a scalar in single quotes, in which a quote is written twice. -/
def singleQuoted (start : TextPlace) (read : List Char) (gap : Gap) : Text → ScalarResult
  | [] => .error ⟨.unexpectedEnd, start, some (.quotedScalar, start)⟩
  | current :: rest =>
    if isGap current.char then singleQuoted start read (gap.push current.char) rest
    else
      match quotedEnd? start (current :: rest) with
      | some fault => .error fault
      | none =>
        let read := gap.behind read
        if current.char = '\'' then
          match rest with
          | [] => .ok (String.ofList read.reverse, [])
          | next :: others =>
            if next.char = '\'' then singleQuoted start ('\'' :: read) {} others
            else .ok (String.ofList read.reverse, next :: others)
        else singleQuoted start (current.char :: read) {} rest

/-! ### Double quotes -/

/-- The character that a backslash with one letter stands for. -/
def escapedChar? : Char → Option Char
  | '0' => some '\x00'
  | 'a' => some '\x07'
  | 'b' => some '\x08'
  | 't' | '\t' => some '\t'
  | 'n' => some '\n'
  | 'v' => some '\x0b'
  | 'f' => some '\x0c'
  | 'r' => some '\r'
  | 'e' => some '\x1b'
  | ' ' => some ' '
  | '"' => some '"'
  | '/' => some '/'
  | '\\' => some '\\'
  | 'N' => some '\u0085'
  | '_' => some '\u00a0'
  | 'L' => some '\u2028'
  | 'P' => some '\u2029'
  | _ => none

/-- How many hexadecimal digits a letter asks for. -/
def codeLength? : Char → Option Nat
  | 'x' => some 2
  | 'u' => some 4
  | 'U' => some 8
  | _ => none

/-- What is expected next in a scalar in double quotes. -/
inductive Quoting where
  /-- A character, behind a gap. -/
  | char (gap : Gap)
  /-- The letter behind a backslash, which is at a place. -/
  | escape (place : TextPlace)
  /-- Some more digits of a code point, whose first digit is at a place. -/
  | digits (place : TextPlace) (count code : Nat)

/-- The rest of a scalar in double quotes. -/
def doubleQuoted (start : TextPlace) (read : List Char) (expected : Quoting) :
    Text → ScalarResult
  | [] => .error ⟨.unexpectedEnd, start, some (.quotedScalar, start)⟩
  | current :: rest =>
    let fail (problem : Problem) (place : TextPlace) : ScalarResult :=
      .error ⟨problem, place, some (.quotedEscape, start)⟩
    match expected with
    | .char gap =>
      if isGap current.char then doubleQuoted start read (.char (gap.push current.char)) rest
      else
        match quotedEnd? start (current :: rest) with
        | some fault => .error fault
        | none =>
          let read := gap.behind read
          if current.char = '"' then .ok (String.ofList read.reverse, rest)
          else if current.char = '\\' then doubleQuoted start read (.escape current.place) rest
          else doubleQuoted start (current.char :: read) (.char {}) rest
    | .escape place =>
      if isBreak current.char then doubleQuoted start read (.char ⟨[], true⟩) rest
      else
        match escapedChar? current.char, codeLength? current.char with
        | some char, _ => doubleQuoted start (char :: read) (.char {}) rest
        | none, some count => doubleQuoted start read (.digits (Text.place rest) count 0) rest
        | none, none => fail .unknownEscape place
    | .digits place count code =>
      match Meaning.digit? 16 current.char with
      | none => fail .missingDigit place
      | some digit =>
        let code := 16 * code + digit
        if 1 < count then doubleQuoted start read (.digits place (count - 1) code) rest
        else if code.isValidChar then doubleQuoted start (Char.ofNat code :: read) (.char {}) rest
        else fail .invalidCode place

/-! ### Plain scalars -/

/-- A plain scalar that was read. -/
structure PlainScalar where
  text : String
  /-- Where its last word ends. -/
  stop : TextPlace
  /-- Whether a line ended behind it. -/
  endsLine : Bool
  /-- What follows the scalar and the gap behind it. -/
  behind : Text
  deriving Repr, Inhabited

/-- Whether a plain scalar ends in front of a character. -/
def endsPlain (inFlow : Bool) (margin : Nat) (gap : Gap) (text : Text) : Bool :=
  text.char = endMark || text.atSeparator || (!gap.chars.isEmpty && text.char = '#') ||
    (gap.hasBreak && !inFlow && text.place.column ≤ margin) ||
    (text.char = ':' && Text.atWordEnd text.tail) || (inFlow && isFlowMark text.char)

/-- The rest of a plain scalar. Behind a line break, a tab must not be inside the margin. -/
def plain (inFlow : Bool) (margin : Nat) (start stop : TextPlace) (read : List Char) (gap : Gap) :
    Text → Except Fault PlainScalar
  | [] => .ok ⟨String.ofList read.reverse, stop, gap.hasBreak, []⟩
  | current :: rest =>
    if isGap current.char then
      if gap.hasBreak && current.char = '\t' && current.place.column ≤ margin then
        .error ⟨.unexpectedTab, current.place, some (.plainScalar, start)⟩
      else plain inFlow margin start stop read (gap.push current.char) rest
    else if endsPlain inFlow margin gap (current :: rest) then
      .ok ⟨String.ofList read.reverse, stop, gap.hasBreak, current :: rest⟩
    else if inFlow && current.char = ':' && (isFlowMark (Text.char rest) || Text.char rest = '?')
    then .error ⟨.unexpectedColon, current.place, some (.plainScalar, start)⟩
    else
      plain inFlow margin start (Text.place rest) (current.char :: gap.behind read) {} rest

/-- Whether a plain scalar may start here. -/
def startsPlain (inFlow : Bool) (text : Text) : Bool :=
  let reserved := ['-', '?', ':', ',', '[', ']', '\x7b', '\x7d', '#', '&', '*', '!', '|', '>',
    '\'', '"', '%', '@', '\x60']
  if text.char = '-' then !isBlank (Text.char text.tail)
  else if !inFlow && (text.char = '?' || text.char = ':') then !Text.atWordEnd text.tail
  else !text.atWordEnd && !reserved.contains text.char

end ConsumerContract.Yaml
