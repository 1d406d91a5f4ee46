/-
This file cuts a JSON text into tokens. Blanks between them are dropped, and a
token keeps the bytes that lie in front of it. A text that can not be cut any
further ends with a token that carries the fault; whether that fault is ever
reported depends on what the grammar expects there. A value that is skipped is
looked at less closely than one that is read: it may hold halves of surrogate
pairs, and a few faults are seen differently.
-/

import ConsumerContract.Json.Fault
import ConsumerContract.Number.Numeral
import ConsumerContract.Uuid

namespace ConsumerContract

/-- What a token stands for. -/
inductive JsonLexeme where
  | listStart
  | listEnd
  | objectStart
  | objectEnd
  | comma
  | colon
  | null
  | bool (value : Bool)
  | number (numeral : Numeral)
  /-- A string, with the fault of a first half of a surrogate pair that has no second one. -/
  | text (text : String) (unpaired : Option JsonFault)
  /-- A value that starts here but is broken; a text may be broken as a key as well. The two
  faults are those for a reader and for one who skips the value. -/
  | broken (isText : Bool) (fault skipFault : JsonFault)
  /-- A character that starts no token. -/
  | stray
  deriving DecidableEq, Repr, Inhabited

/-- A token, with the bytes in front of it and those up to its end. -/
structure JsonToken where
  start : Nat
  stop : Nat
  lexeme : JsonLexeme
  deriving DecidableEq, Repr, Inhabited

/-- A token and the text behind it. -/
abbrev JsonCut := JsonToken × List Char

namespace JsonToken

/-- How many bytes characters take. -/
def byteCount : List Char → Nat
  | [] => 0
  | char :: rest => char.utf8Size + byteCount rest

/-- A fault after which nothing is read. -/
def broken (start : Nat) (isText : Bool) (fault skipFault : JsonFault) : JsonCut :=
  (⟨start, fault.offset, .broken isText fault skipFault⟩, [])

/-! ### Strings -/

/-- The number that four hexadecimal digits write. -/
def hexNumber? (digits : List Char) : Option Nat :=
  (digits.mapM Uuid.hexValue?).map fun values =>
    values.foldl (fun number value => 16 * number + value) 0

/-- Whether a number is the first half of a surrogate pair. -/
def isHighSurrogate (number : Nat) : Bool :=
  0xD800 ≤ number && number < 0xDC00

/-- Whether a number is the second half of a surrogate pair. -/
def isLowSurrogate (number : Nat) : Bool :=
  0xDC00 ≤ number && number < 0xE000

/-- The character of a surrogate pair. -/
def ofSurrogates (high low : Nat) : Char :=
  Char.ofNat (0x10000 + (high - 0xD800) * 0x400 + (low - 0xDC00))

/-- The character that a backslash with one letter stands for. -/
def escapedChar? : Char → Option Char
  | '"' => some '"'
  | '\\' => some '\\'
  | '/' => some '/'
  | 'b' => some '\x08'
  | 'f' => some '\x0c'
  | 'n' => some '\n'
  | 'r' => some '\r'
  | 't' => some '\t'
  | _ => none

/-- A string that can not be read on. An earlier fault of a surrogate comes first. -/
def brokenText (start : Nat) (unpaired : Option JsonFault) (fault : JsonFault) : JsonCut :=
  broken start true (unpaired.getD fault) fault

/-- The fault of four digits that are no number. Four bytes are read before they are looked
at. -/
def digitsFault (offset : Nat) (rest : List Char) : JsonFault :=
  if 4 ≤ byteCount rest then ⟨.invalidEscape, offset + 4⟩
  else ⟨.endInString, offset + byteCount rest⟩

/-- The fault of a first half of a surrogate pair, by what follows it. -/
def unpairedFault (offset : Nat) : List Char → JsonFault
  | [] => ⟨.endInString, offset⟩
  | ['\\'] => ⟨.endInString, offset + 1⟩
  | '\\' :: 'u' :: digits =>
    if (hexNumber? (digits.take 4)).isSome ∧ 4 ≤ byteCount digits then
      ⟨.loneSurrogate, offset + 6⟩
    else digitsFault (offset + 2) digits
  | '\\' :: _ => ⟨.brokenSurrogate, offset + 2⟩
  | _ :: _ => ⟨.brokenSurrogate, offset + 1⟩

/-- The character of two escapes that are a surrogate pair. -/
def paired? (first second : List Char) : Option Char :=
  match hexNumber? first, hexNumber? second with
  | some high, some low =>
    if isHighSurrogate high && isLowSurrogate low then some (ofSurrogates high low) else none
  | _, _ => none

/-- What an escape of four digits stands for by itself: a character, with the fault of a
surrogate that has no other half. -/
def unitChar (offset : Nat) (number : Nat) (rest : List Char) : Char × Option JsonFault :=
  if isLowSurrogate number then ('\uFFFD', some ⟨.loneSurrogate, offset⟩)
  else if isHighSurrogate number then ('\uFFFD', some (unpairedFault offset rest))
  else (Char.ofNat number, none)

/-- The rest of a string literal that starts at `start`; `read` holds the characters so far,
the last one first. -/
def stringFrom (start offset : Nat) (unpaired : Option JsonFault) (read : List Char) :
    List Char → JsonCut
  | [] => brokenText start unpaired ⟨.endInString, offset⟩
  | '"' :: rest => (⟨start, offset + 1, .text (String.ofList read.reverse) unpaired⟩, rest)
  | '\\' :: 'u' :: a :: b :: c :: d :: '\\' :: 'u' :: e :: f :: g :: h :: rest =>
    match paired? [a, b, c, d] [e, f, g, h] with
    | some char => stringFrom start (offset + 12) unpaired (char :: read) rest
    | none =>
      let behind := '\\' :: 'u' :: e :: f :: g :: h :: rest
      match hexNumber? [a, b, c, d] with
      | none => brokenText start unpaired ⟨.invalidEscape, offset + 6⟩
      | some number =>
        let (char, fault) := unitChar (offset + 6) number behind
        stringFrom start (offset + 6) (unpaired.or fault) (char :: read) behind
  | '\\' :: 'u' :: a :: b :: c :: d :: rest =>
    match hexNumber? [a, b, c, d] with
    | none => brokenText start unpaired ⟨.invalidEscape, offset + 6⟩
    | some number =>
      let (char, fault) := unitChar (offset + 6) number rest
      stringFrom start (offset + 6) (unpaired.or fault) (char :: read) rest
  | '\\' :: 'u' :: few => brokenText start unpaired (digitsFault (offset + 2) few)
  | ['\\'] => brokenText start unpaired ⟨.endInString, offset + 1⟩
  | '\\' :: letter :: rest =>
    match escapedChar? letter with
    | some char => stringFrom start (offset + 2) unpaired (char :: read) rest
    | none => brokenText start unpaired ⟨.invalidEscape, offset + 2⟩
  | char :: rest =>
    if char.toNat < 0x20 then
      broken start true (unpaired.getD ⟨.controlCharacter, offset + 1⟩)
        ⟨.controlCharacter, offset⟩
    else stringFrom start (offset + char.utf8Size) unpaired (char :: read) rest

/-! ### Numbers -/

/-- A number that is broken: at the end of the text, or by the character that follows. -/
def brokenNumber (start offset : Nat) (rest : List Char) : JsonCut :=
  if rest.isEmpty then broken start false ⟨.endInValue, offset⟩ ⟨.invalidNumber, offset⟩
  else broken start false ⟨.invalidNumber, offset + 1⟩ ⟨.invalidNumber, offset + 1⟩

/-- A number whose digits in front of an exponent are known. -/
def exponentFrom (start offset : Nat) (numeral : Numeral) (text : List Char) : JsonCut :=
  let mantissa : JsonCut := (⟨start, offset, .number numeral⟩, text)
  match text with
  | [] => mantissa
  | letter :: rest =>
    if letter = 'e' ∨ letter = 'E' then
      let (negative, signed, unsigned) : Bool × Nat × List Char :=
        match rest with
        | '-' :: digits => (true, 1, digits)
        | '+' :: digits => (false, 1, digits)
        | digits => (false, 0, digits)
      let (digits, behind) := Digit.span unsigned
      if digits.isEmpty then brokenNumber start (offset + 1 + signed) unsigned
      else
        let exponent := Exponent.ofDigits negative digits
        (⟨start, offset + 1 + signed + digits.length,
          .number { numeral with exponent := some exponent }⟩, behind)
    else mantissa

/-- A number from its digits on. -/
def numberFrom (start offset : Nat) (negative : Bool) (text : List Char) : JsonCut :=
  let (whole, rest) := Digit.span text
  let offsetAfter := offset + whole.length
  if whole.isEmpty then brokenNumber start offset text
  else if whole.head? = some .zero ∧ 1 < whole.length then
    broken start false ⟨.invalidNumber, offset + 2⟩ ⟨.invalidNumber, offset + 2⟩
  else
    let numeral : Numeral := { negative, whole := Digit.value whole }
    match rest with
    | '.' :: digits =>
      let (fraction, behind) := Digit.span digits
      if fraction.isEmpty then brokenNumber start (offsetAfter + 1) digits
      else
        exponentFrom start (offsetAfter + 1 + fraction.length) { numeral with fraction } behind
    | _ => exponentFrom start offsetAfter numeral rest

/-! ### Words and marks -/

/-- The rest of a word, which has to be there letter by letter. -/
def wordFrom (start offset : Nat) (meaning : JsonLexeme) : List Char → List Char → JsonCut
  | [], rest => (⟨start, offset, meaning⟩, rest)
  | _ :: _, [] => broken start false ⟨.endInValue, offset⟩ ⟨.endInValue, offset⟩
  | letter :: letters, char :: rest =>
    if char = letter then wordFrom start (offset + 1) meaning letters rest
    else broken start false ⟨.expectedWord, offset + 1⟩ ⟨.expectedWord, offset + 1⟩

/-- A token of one character. -/
def mark (start : Nat) (meaning : JsonLexeme) (rest : List Char) : JsonCut :=
  (⟨start, start + 1, meaning⟩, rest)

/-- The token that starts with a character. -/
def cut (start : Nat) (char : Char) (rest : List Char) : JsonCut :=
  match char with
  | '[' => mark start .listStart rest
  | ']' => mark start .listEnd rest
  | '\x7b' => mark start .objectStart rest
  | '\x7d' => mark start .objectEnd rest
  | ',' => mark start .comma rest
  | ':' => mark start .colon rest
  | '"' => stringFrom start (start + 1) none [] rest
  | 'n' => wordFrom start (start + 1) .null ['u', 'l', 'l'] rest
  | 't' => wordFrom start (start + 1) (.bool true) ['r', 'u', 'e'] rest
  | 'f' => wordFrom start (start + 1) (.bool false) ['a', 'l', 's', 'e'] rest
  | '-' => numberFrom start (start + 1) true rest
  | _ =>
    if char.isDigit then numberFrom start start false (char :: rest)
    else mark start .stray []

/-! ### Whole texts -/

/-- The characters that may stand between tokens. -/
def isBlank (char : Char) : Bool :=
  char = ' ' || char = '\n' || char = '\t' || char = '\r'

/-- At most `count` tokens of a text that starts after `offset` bytes. -/
def cutAll : Nat → Nat → List Char → List JsonToken
  | 0, _, _ => []
  | count + 1, offset, text =>
    let blanks := text.takeWhile isBlank
    match text.drop blanks.length with
    | [] => []
    | char :: rest =>
      let (token, behind) := cut (offset + blanks.length) char rest
      token :: cutAll count token.stop behind

/-- The tokens of a text; there are never more of them than characters. -/
def ofText (text : String) : List JsonToken :=
  let chars := text.toList
  cutAll chars.length 0 chars

end JsonToken

end ConsumerContract
