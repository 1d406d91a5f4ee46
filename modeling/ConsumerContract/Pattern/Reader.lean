/-
This file reads regular expressions. One loop takes piece after piece from the
text and keeps the open groups on a stack, so the first fault from the left is
the one that is reported; only a group that stays open is noticed at the end.
Every piece takes at least one character, hence the number of characters bounds
the number of steps. A reading function yields what it read and what is left of the text.
-/

import ConsumerContract.Character.Property
import ConsumerContract.Pattern.Tree

namespace ConsumerContract.Pattern

/-! ### Faults and their places -/

/-- A fault over the text from `start` to `stop`, both given by what is left there. -/
def fail {α : Type} (fault : Fault) (start stop : List Char) : Except SyntaxFault α :=
  .error { fault, span := ⟨start, stop⟩ }

/-- A fault between two characters. -/
def failHere {α : Type} (fault : Fault) (here : List Char) : Except SyntaxFault α :=
  fail fault here here

/-- A fault of the next character. -/
def failNext {α : Type} (fault : Fault) (here : List Char) : Except SyntaxFault α :=
  fail fault here (here.drop 1)

/-! ### Blanks and comments of verbose expressions -/

/-- Leaves out blanks and comments; a comment ends with its line. -/
def withoutComments (inComment : Bool) : List Char → List Char
  | [] => []
  | char :: rest =>
    if inComment then withoutComments (char ≠ '\n') rest
    else if char = '#' then withoutComments true rest
    else if Character.isBlank char then withoutComments false rest
    else char :: rest

/-- What is left after blanks and comments, which count only in a verbose expression. -/
def skip (verbose : Bool) (text : List Char) : List Char :=
  if verbose then withoutComments false text else text

/-- What is left after the next character and the blanks behind it. -/
def advance (verbose : Bool) (text : List Char) : List Char :=
  skip verbose (text.drop 1)

/-! ### Numbers -/

/-- Digits, with blanks between them in a verbose expression. -/
def digitRun (verbose : Bool) : Nat → List Char → List Digit × List Char
  | 0, text => ([], text)
  | steps + 1, text =>
    match text.head?.bind Digit.ofChar? with
    | some digit =>
      let (digits, rest) := digitRun verbose steps (advance verbose text)
      (digit :: digits, rest)
    | none => ([], text)

/-- A number of a counted repetition, with blanks around it. -/
def count (verbose : Bool) (text : List Char) : Except SyntaxFault Nat × List Char :=
  let start := text.dropWhile Character.isBlank
  let (digits, stop) := digitRun verbose start.length start
  let rest := skip verbose (stop.dropWhile Character.isBlank)
  if digits.isEmpty then (fail .repetitionCountMissing start stop, rest)
  else if Digit.value digits < UInt32.size then (.ok (Digit.value digits), rest)
  else (fail .decimalInvalid start stop, rest)

/-! ### Escapes -/

/-- What an escape stands for. -/
inductive Atom where
  | literal (written : Literal)
  | charClass (content : CharClass)
  | assertion (kind : Assertion) (span : Span)
  deriving Repr, Inhabited

/-- Characters with a meaning of their own, which an escape takes away. -/
def isSpecial (char : Char) : Bool :=
  ['\\', '.', '+', '*', '?', '(', ')', '|', '[', ']', '\x7b', '\x7d', '^', '$', '#', '&', '-',
    '~'].contains char

/-- Characters that may have an escape without need. -/
def isEscapable (char : Char) : Bool :=
  isSpecial char || (char.toNat < 0x80 && !char.isAlphanum && char ≠ '<' && char ≠ '>')

/-- The character with a code point, if there is one. -/
def charOf? (code : Nat) : Option Char :=
  if h : code.isValidChar then some (Char.ofNatAux code h) else none

/-- The number of hexadecimal digits. -/
def hexNumber (digits : List Nat) : Nat :=
  digits.foldl (fun number digit => 16 * number + digit) 0

/-- The value of a hexadecimal digit. -/
def hexDigit? (char : Char) : Option Nat :=
  if '0' ≤ char ∧ char ≤ '9' then some (char.toNat - '0'.toNat)
  else if 'a' ≤ char ∧ char ≤ 'f' then some (char.toNat - 'a'.toNat + 10)
  else if 'A' ≤ char ∧ char ≤ 'F' then some (char.toNat - 'A'.toNat + 10)
  else none

/-- A fixed count of hexadecimal digits. -/
def hexDigits (verbose : Bool) : Nat → List Char → Except SyntaxFault (List Nat × List Char)
  | 0, text => .ok ([], text)
  | count + 1, text =>
    match text with
    | [] => failHere .escapeUnexpectedEnd text
    | char :: _ =>
      match hexDigit? char with
      | none => failNext .escapeHexInvalidDigit text
      | some digit => do
        let (digits, rest) ← hexDigits verbose count (advance verbose text)
        .ok (digit :: digits, rest)

/-- Hexadecimal digits up to a closing brace; `brace` is the text from the opening one on. -/
def bracedHexDigits (verbose : Bool) (brace : List Char) : Nat → List Char →
    Except SyntaxFault (List Nat × List Char)
  | 0, text => .ok ([], text)
  | steps + 1, text =>
    match text with
    | [] => fail .escapeUnexpectedEnd brace []
    | '\x7d' :: _ => .ok ([], text)
    | char :: _ =>
      match hexDigit? char with
      | none => failNext .escapeHexInvalidDigit text
      | some digit => do
        let (digits, rest) ← bracedHexDigits verbose brace steps (advance verbose text)
        .ok (digit :: digits, rest)

/-- A character by its code point; `text` is what follows the letter of the escape. Says
as well whether the digits stand in braces. -/
def hexChar (verbose : Bool) (digitCount : Nat) (text : List Char) :
    Except SyntaxFault ((Char × Bool) × List Char) :=
  match text with
  | [] => failHere .escapeUnexpectedEnd text
  | '\x7b' :: inside => do
    let (digits, close) ← bracedHexDigits verbose text (text.length + 1) (advance verbose text)
    let rest := advance verbose close
    if digits.isEmpty then fail .escapeHexEmpty text rest
    else
      match charOf? (hexNumber digits) with
      | some char => .ok ((char, true), rest)
      | none => fail .escapeHexInvalid inside close
  | _ => do
    let (digits, rest) ← hexDigits verbose digitCount text
    match charOf? (hexNumber digits) with
    | some char => .ok ((char, false), rest)
    | none => fail .escapeHexInvalid text rest

/-- Splits a text at the first occurrence of a separator. -/
def splitAt? (separator : List Char) : List Char → Option (List Char × List Char)
  | [] => none
  | char :: rest =>
    if separator.isPrefixOf (char :: rest) then some ([], (char :: rest).drop separator.length)
    else (splitAt? separator rest).map fun (before, after) => (char :: before, after)

/-- A property and whether it is asked for negatively a second time. -/
def propertyOf (name : List Char) : Property × Bool :=
  match splitAt? ['!', '='] name, splitAt? [':'] name, splitAt? ['='] name with
  | some (property, value), _, _ => (.valued (String.ofList property) (String.ofList value), true)
  | none, some (property, value), _ =>
    (.valued (String.ofList property) (String.ofList value), false)
  | none, none, some (property, value) =>
    (.valued (String.ofList property) (String.ofList value), false)
  | none, none, none => (.named (String.ofList name), false)

/-- Characters up to a closing brace. -/
def bracedName (verbose : Bool) : Nat → List Char → Option (List Char × List Char)
  | 0, _ => none
  | steps + 1, text =>
    match text with
    | [] => none
    | '\x7d' :: rest => some ([], rest)
    | char :: _ =>
      (bracedName verbose steps (advance verbose text)).map fun (name, rest) => (char :: name, rest)

/-- A class by a Unicode property; `start` is the text from the backslash on, and
`text` what follows the letter of the escape. -/
def propertyClass (verbose negated : Bool) (start text : List Char) :
    Except SyntaxFault (CharClass × List Char) :=
  match skip verbose text with
  | [] => failHere .escapeUnexpectedEnd []
  | '\x7b' :: inside =>
    match bracedName verbose (text.length + 1) (skip verbose inside) with
    | none => failHere .escapeUnexpectedEnd []
    | some (name, rest) =>
      let (property, opposite) := propertyOf name
      .ok (.property property (negated != opposite) ⟨start, rest⟩, rest)
  | letter :: rest =>
    if letter = '\\' then failNext .propertyNameInvalid (letter :: rest)
    else
      let rest := skip verbose rest
      .ok (.property (.named (String.singleton letter)) negated ⟨start, rest⟩, rest)

/-- Letters of the name of a word boundary. -/
def boundaryName (verbose : Bool) : Nat → List Char → List Char × List Char
  | 0, text => ([], text)
  | steps + 1, text =>
    match text with
    | [] => ([], [])
    | char :: _ =>
      if char.isAlpha || char = '-' then
        let (name, rest) := boundaryName verbose steps (advance verbose text)
        (char :: name, rest)
      else ([], text)

/-- The kind of a word boundary. It may have a name in braces, unless the braces
are those of a repetition. -/
def wordBoundary (verbose : Bool) (start text : List Char) :
    Except SyntaxFault (Assertion × List Char) :=
  match text with
  | '\x7b' :: _ =>
    match advance verbose text with
    | [] => fail .wordBoundaryUnexpectedEnd start []
    | char :: rest =>
      if char.isAlpha || char = '-' then
        let inside := char :: rest
        let (name, close) := boundaryName verbose inside.length inside
        match close with
        | '\x7d' :: after =>
          match String.ofList name with
          | "start" => .ok (.wordStart, after)
          | "end" => .ok (.wordEnd, after)
          | "start-half" => .ok (.wordStartHalf, after)
          | "end-half" => .ok (.wordEndHalf, after)
          | _ => fail .wordBoundaryUnrecognized inside close
        | _ => fail .wordBoundaryUnclosed text close
      else .ok (.wordBoundary, text)
  | _ => .ok (.wordBoundary, text)

/-- The class of a one-letter escape. -/
def shorthand? : Char → Option (Shorthand × Bool)
  | 'd' => some (.digit, false)
  | 'D' => some (.digit, true)
  | 's' => some (.blank, false)
  | 'S' => some (.blank, true)
  | 'w' => some (.word, false)
  | 'W' => some (.word, true)
  | _ => none

/-- The control character of a one-letter escape. -/
def controlChar? : Char → Option Char
  | 'a' => some '\x07'
  | 'f' => some '\x0c'
  | 't' => some '\t'
  | 'n' => some '\n'
  | 'r' => some '\r'
  | 'v' => some '\x0b'
  | _ => none

/-- The assertion of a one-letter escape. -/
def assertion? : Char → Option Assertion
  | 'A' => some .textStart
  | 'z' => some .textEnd
  | 'B' => some .notWordBoundary
  | '<' => some .wordStart
  | '>' => some .wordEnd
  | _ => none

/-- An escape; `text` starts with its backslash. -/
def escape (verbose : Bool) (text : List Char) : Except SyntaxFault (Atom × List Char) :=
  match text.drop 1 with
  | [] => fail .escapeUnexpectedEnd text []
  | char :: rest =>
    let here : Span := ⟨text, rest⟩
    let plain (char : Char) : Atom := .literal { char, isByte := false, span := here }
    if char.isDigit then fail .backreference text rest
    else if char = 'x' ∨ char = 'u' ∨ char = 'U' then do
      let digitCount := if char = 'x' then 2 else if char = 'u' then 4 else 8
      let ((point, inBraces), rest) ← hexChar verbose digitCount (skip verbose rest)
      let isByte := char = 'x' && !inBraces
      .ok (.literal { char := point, isByte, span := ⟨text, rest⟩ }, rest)
    else if char = 'p' ∨ char = 'P' then do
      let (content, rest) ← propertyClass verbose (char = 'P') text rest
      .ok (.charClass content, rest)
    else if isSpecial char || isEscapable char then .ok (plain char, rest)
    else if char = 'b' then do
      let (kind, rest) ← wordBoundary verbose text rest
      .ok (.assertion kind ⟨text, rest⟩, rest)
    else
      match shorthand? char, controlChar? char, assertion? char with
      | some (kind, negated), _, _ => .ok (.charClass (.shorthand kind negated here), rest)
      | none, some control, _ => .ok (plain control, rest)
      | none, none, some kind => .ok (.assertion kind here, rest)
      | none, none, none => fail .escapeUnrecognized text rest

/-! ### Bracket classes -/

/-- The ASCII class with a name. -/
def asciiClass? : String → Option AsciiClass
  | "alnum" => some .alnum
  | "alpha" => some .alpha
  | "ascii" => some .ascii
  | "blank" => some .blank
  | "cntrl" => some .cntrl
  | "digit" => some .digit
  | "graph" => some .graph
  | "lower" => some .lower
  | "print" => some .print
  | "punct" => some .punct
  | "space" => some .space
  | "upper" => some .upper
  | "word" => some .word
  | "xdigit" => some .xdigit
  | _ => none

/-- A class such as `[:alpha:]`, if the text starts with one. -/
def asciiClass (text : List Char) : Option (CharClass × List Char) :=
  match text with
  | '[' :: ':' :: inside =>
    let (negated, named) :=
      match inside with
      | '^' :: rest => (true, rest)
      | rest => (false, rest)
    let name := named.takeWhile (· ≠ ':')
    match named.drop name.length with
    | ':' :: ']' :: rest =>
      (asciiClass? (String.ofList name)).map fun kind => (.ascii kind negated ⟨text, rest⟩, rest)
    | _ => none
  | _ => none

/-- The items of a class that are read so far, last first, and the text at its start. -/
structure ClassItems where
  items : List CharClass
  start : List Char

/-- Adds an item. -/
def ClassItems.push (content : ClassItems) (item : CharClass) : ClassItems :=
  { content with items := item :: content.items }

/-- The items together; a single one stands for itself. -/
def ClassItems.together (content : ClassItems) : CharClass :=
  match content.items.reverse with
  | [] => .union [] ⟨content.start, content.start⟩
  | [item] => item
  | first :: rest =>
    .union (first :: rest) (first.span.to ((content.items.head?.getD first).span))

/-- An enclosing part of a bracket class that is not finished: an outer class with
the items in front, or the left side of an operation. -/
inductive ClassFrame where
  | enclosing (outer : ClassItems) (negated : Bool) (span : Span)
  | operation (kind : SetOperation) (left : CharClass)

/-- The fault of a class that stays open: the innermost one is shown. -/
def unclosedClass {α : Type} : List ClassFrame → Except SyntaxFault α
  | [] => failHere .classUnclosed []
  | .enclosing _ _ span :: _ => .error { fault := .classUnclosed, span }
  | .operation .. :: rest => unclosedClass rest

/-- The next character as it is. -/
def verbatim (char : Char) (text rest : List Char) : Literal :=
  { char, isByte := false, span := ⟨text, rest⟩ }

/-- Hyphens in front of a class stand for themselves. -/
def leadingHyphens (verbose : Bool) : Nat → List Char → List CharClass × List Char
  | 0, text => ([], text)
  | steps + 1, text =>
    match text with
    | '-' :: rest =>
      let (hyphens, after) := leadingHyphens verbose steps (advance verbose text)
      (.literal (verbatim '-' text rest) :: hyphens, after)
    | _ => ([], text)

/-- The start of a class: its bracket, a negation, hyphens, or a closing bracket
that stands for itself. -/
def openClass (verbose : Bool) (outer : ClassItems) (text : List Char) :
    Except SyntaxFault ((ClassFrame × ClassItems) × List Char) :=
  match advance verbose text with
  | [] => fail .classUnclosed text []
  | char :: rest =>
    let negated := char = '^'
    let inside := if negated then advance verbose (char :: rest) else char :: rest
    if inside.isEmpty then fail .classUnclosed text []
    else
      let (hyphens, afterHyphens) := leadingHyphens verbose inside.length inside
      if afterHyphens.isEmpty then failHere .classUnclosed text
      else
        let (items, content) : List CharClass × List Char :=
          match hyphens, afterHyphens with
          | [], ']' :: rest =>
            ([.literal (verbatim ']' afterHyphens rest)], advance verbose afterHyphens)
          | _, _ => (hyphens.reverse, afterHyphens)
        if content.isEmpty then fail .classUnclosed text []
        else .ok ((.enclosing outer negated ⟨text, content⟩, ⟨items, inside⟩), content)

/-- One item of a class: a character, an escape, or the end of a range. -/
def classAtom (verbose : Bool) (text : List Char) : Except SyntaxFault (Atom × List Char) :=
  match text with
  | '\\' :: _ => escape verbose text
  | char :: rest => .ok (.literal (verbatim char text rest), rest)
  | [] => failHere .classUnclosed []

/-- An atom as an end of a range. -/
def rangeEnd (atom : Atom) : Except SyntaxFault Literal :=
  match atom with
  | .literal written => .ok written
  | .charClass content => .error { fault := .classRangeLiteral, span := content.span }
  | .assertion _ span => .error { fault := .classRangeLiteral, span }

/-- A single item or a range. -/
def classRange (verbose : Bool) (frames : List ClassFrame) (text : List Char) :
    Except SyntaxFault (CharClass × List Char) := do
  let (first, afterFirst) ← classAtom verbose text
  let next := skip verbose afterFirst
  match next with
  | [] => unclosedClass frames
  | char :: _ =>
    let following := (advance verbose next).head?
    if char ≠ '-' ∨ following = some ']' ∨ following = some '-' then
      match first with
      | .literal written => .ok (.literal written, next)
      | .charClass content => .ok (content, next)
      | .assertion _ span => .error { fault := .classEscapeInvalid, span }
    else
      let secondText := advance verbose next
      if secondText.isEmpty then unclosedClass frames
      else
        let (second, rest) ← classAtom verbose secondText
        let firstEnd ← rangeEnd first
        let lastEnd ← rangeEnd second
        if firstEnd.char ≤ lastEnd.char then .ok (.range firstEnd lastEnd, rest)
        else .error { fault := .classRangeInvalid, span := firstEnd.span.to lastEnd.span }

/-- Ends the operation that waits for its right side. -/
def finishOperation (frames : List ClassFrame) (right : CharClass) :
    CharClass × List ClassFrame :=
  match frames with
  | .operation kind left :: rest =>
    (.operation kind left right (left.span.to right.span), rest)
  | _ => (right, frames)

/-- The operation that a text starts with. -/
def setOperation? : List Char → Option SetOperation
  | '&' :: '&' :: _ => some .intersection
  | '-' :: '-' :: _ => some .difference
  | '~' :: '~' :: _ => some .symmetricDifference
  | _ => none

/-- Reads the inside of a class. `content` is what was read of the innermost class. -/
def classContent (verbose : Bool) : Nat → List ClassFrame → ClassItems → List Char →
    Except SyntaxFault (CharClass × List Char)
  | 0, frames, _, _ => unclosedClass frames
  | steps + 1, frames, content, text =>
    match skip verbose text with
    | [] => unclosedClass frames
    | '[' :: rest =>
      match asciiClass ('[' :: rest) with
      | some (item, rest) => classContent verbose steps frames (content.push item) rest
      | none => do
        let ((frame, inner), inside) ← openClass verbose content ('[' :: rest)
        classContent verbose steps (frame :: frames) inner inside
    | ']' :: rest =>
      let (whole, outerFrames) := finishOperation frames content.together
      match outerFrames with
      | .enclosing outer negated span :: outermost =>
        let closed := CharClass.bracketed negated whole ⟨span.first, rest⟩
        if outermost.isEmpty then .ok (closed, rest)
        else classContent verbose steps outermost (outer.push closed) rest
      | _ => unclosedClass frames
    | char :: rest =>
      match setOperation? (char :: rest) with
      | some kind =>
        let (left, outerFrames) := finishOperation frames content.together
        let right := rest.drop 1
        classContent verbose steps (.operation kind left :: outerFrames) ⟨[], right⟩ right
      | none => do
        let (item, rest) ← classRange verbose frames (char :: rest)
        classContent verbose steps frames (content.push item) rest

/-- A bracket class; `text` starts with its bracket. -/
def bracketClass (verbose : Bool) (text : List Char) :
    Except SyntaxFault (CharClass × List Char) := do
  let ((frame, content), inside) ← openClass verbose ⟨[], text⟩ text
  classContent verbose (text.length + 1) [frame] content inside

/-! ### Groups -/

/-- The flag with a letter. -/
def flag? : Char → Option Flag
  | 'i' => some .caseInsensitive
  | 'm' => some .multiLine
  | 's' => some .dotMatchesNewline
  | 'U' => some .swapGreed
  | 'u' => some .unicode
  | 'R' => some .carriageReturn
  | 'x' => some .verbose
  | _ => none

/-- One item of a list of flags with its place: a flag, or a hyphen after which
flags are switched off. -/
abbrev FlagItem := Option Flag × Span

/-- Reads flags up to a colon or a closing parenthesis, which is left. -/
def flagItems (items : List FlagItem) : List Char → Except SyntaxFault (List FlagItem × List Char)
  | [] => failHere .flagUnexpectedEnd []
  | char :: rest =>
    let here : Span := ⟨char :: rest, rest⟩
    if char = ':' ∨ char = ')' then
      match items.getLast? with
      | some (none, span) => .error { fault := .flagDanglingNegation, span }
      | _ => .ok (items, char :: rest)
    else if char = '-' then
      match items.find? fun item => item.1.isNone with
      | some (_, earlier) => .error { fault := .flagRepeatedNegation, span := here, earlier }
      | none => flagItems (items ++ [(none, here)]) rest
    else
      match flag? char with
      | none => .error { fault := .flagUnrecognized, span := here }
      | some flag =>
        match items.find? fun item => item.1 = some flag with
        | some (_, earlier) => .error { fault := .flagDuplicate, span := here, earlier }
        | none => flagItems (items ++ [(some flag, here)]) rest

/-- The setting that flag items describe. -/
def settingOf (on : Bool) : List FlagItem → FlagSetting
  | [] => []
  | (none, _) :: rest => settingOf false rest
  | (some flag, _) :: rest => (flag, on) :: settingOf on rest

/-- Characters of a group's name; a digit or a bracket can not be the first. -/
def isNameChar (first : Bool) (char : Char) : Bool :=
  if first then char = '_' || Character.isLetter char
  else char = '_' || char = '.' || char = '[' || char = ']' || Character.isLetterOrNumber char

/-- The characters of a group's name up to its closing angle bracket. -/
def groupNameChars (first : Bool) : List Char → Except SyntaxFault (List Char × List Char)
  | [] => failHere .groupNameUnexpectedEnd []
  | '>' :: rest => .ok ([], '>' :: rest)
  | char :: rest =>
    if isNameChar first char then do
      let (name, close) ← groupNameChars false rest
      .ok (char :: name, close)
    else failNext .groupNameInvalid (char :: rest)

/-- The groups and pieces around the place that is being read. `branch` is the text
at the start of the current branch, `start` that at the start of the whole content. -/
structure OpenGroup where
  pieces : List Tree
  branches : List Tree
  branch : List Char
  start : List Char
  number : Option Nat
  setting : FlagSetting
  span : Span
  verbose : Bool

/-- What has been read of an expression: the pieces of the current branch and the
finished branches of the current group, last first, with the texts at the start
of both; the groups around it, and the names and the count of all groups. -/
structure ReaderState where
  pieces : List Tree
  branches : List Tree
  branch : List Char
  start : List Char
  groups : List OpenGroup
  names : List (List Char × Span)
  groupCount : Nat
  verbose : Bool

/-- Whether blanks and comments are skipped after a setting. -/
def verboseAfter (setting : FlagSetting) (verbose : Bool) : Bool :=
  ((setting.find? fun entry => entry.1 = .verbose).map Prod.snd).getD verbose

namespace ReaderState

/-- Nothing has been read of a text. -/
def initial (text : List Char) : ReaderState :=
  { pieces := [], branches := [], branch := text, start := text, groups := [], names := [],
    groupCount := 0, verbose := false }

/-- The branch that is being read and ends in front of `stop`. -/
def branchUpTo (state : ReaderState) (stop : List Char) : Tree :=
  let span : Span := ⟨state.branch, stop⟩
  match state.pieces with
  | [] => .empty span
  | [piece] => piece
  | pieces => .concatenation pieces.reverse span

/-- Everything in the current group up to `stop`. -/
def contentUpTo (state : ReaderState) (stop : List Char) : Tree :=
  if state.branches.isEmpty then state.branchUpTo stop
  else .alternation (state.branchUpTo stop :: state.branches).reverse ⟨state.start, stop⟩

/-- Adds a piece to the current branch. -/
def push (state : ReaderState) (piece : Tree) : ReaderState :=
  { state with pieces := piece :: state.pieces }

/-- Starts the next branch; `bar` is the text from the bar on. -/
def nextBranch (state : ReaderState) (bar : List Char) : ReaderState :=
  { state with
    pieces := []
    branches := state.branchUpTo bar :: state.branches
    branch := bar.drop 1 }

/-- Enters a group whose content starts at `inside`. -/
def enter (state : ReaderState) (captures : Bool) (setting : FlagSetting) (span : Span)
    (inside : List Char) : ReaderState :=
  let groupCount := if captures then state.groupCount + 1 else state.groupCount
  { state with
    pieces := []
    branches := []
    branch := inside
    start := inside
    groups :=
      { pieces := state.pieces, branches := state.branches, branch := state.branch,
        start := state.start, number := if captures then some groupCount else none,
        setting, span, verbose := state.verbose } :: state.groups
    groupCount
    verbose := verboseAfter setting state.verbose }

/-- Leaves the innermost group, if there is one; `close` is the text from its end on. -/
def leave? (state : ReaderState) (close : List Char) : Option ReaderState :=
  match state.groups with
  | [] => none
  | group :: outer =>
    let tree : Tree :=
      .group group.number group.setting (state.contentUpTo close) ⟨group.span.first, close.drop 1⟩
    some { state with
      pieces := tree :: group.pieces
      branches := group.branches
      branch := group.branch
      start := group.start
      groups := outer
      verbose := group.verbose }

end ReaderState

/-- The start of a group; `text` starts with its parenthesis. -/
def openGroup (state : ReaderState) (text : List Char) :
    Except SyntaxFault (ReaderState × List Char) :=
  let inside := advance state.verbose text
  let span : Span := ⟨text, text.drop 1⟩
  let lookAround (mark : List Char) : Bool := mark.isPrefixOf inside
  if lookAround ['?', '='] || lookAround ['?', '!'] then fail .lookAround text (inside.drop 2)
  else if lookAround ['?', '<', '='] || lookAround ['?', '<', '!'] then
    fail .lookAround text (inside.drop 3)
  else
    let named? : Option (List Char) :=
      match inside with
      | '?' :: 'P' :: '<' :: rest => some rest
      | '?' :: '<' :: rest => some rest
      | _ => none
    match named?, inside with
    | some nameText, _ => do
      let (name, close) ← groupNameChars true nameText
      if name.isEmpty then failHere .groupNameEmpty nameText
      else
        let here : Span := ⟨nameText, close⟩
        match state.names.find? fun entry => entry.1 = name with
        | some (_, earlier) => .error { fault := .groupNameDuplicate, span := here, earlier }
        | none =>
          let named := { state with names := state.names ++ [(name, here)] }
          let inside := close.drop 1
          .ok (named.enter true [] span inside, inside)
    | none, '?' :: flagText =>
      if flagText.isEmpty then .error { fault := .groupUnclosed, span }
      else do
        let (items, close) ← flagItems [] flagText
        let setting := settingOf true items
        match close with
        | ')' :: rest =>
          if items.isEmpty then failHere .repetitionMissing inside
          else
            let verbose := verboseAfter setting state.verbose
            .ok ({ state.push (.flags setting ⟨text, rest⟩) with verbose }, rest)
        | _ =>
          let inside := close.drop 1
          .ok (state.enter false setting span inside, inside)
    | none, _ => .ok (state.enter true [] span inside, inside)

/-! ### Repetitions -/

/-- The piece that a repetition repeats, and the state without it. -/
def repeated? (state : ReaderState) : Option (Tree × ReaderState) :=
  match state.pieces with
  | [] => none
  | .flags .. :: _ => none
  | piece :: pieces => some (piece, { state with pieces })

/-- Whether a repetition is lazy because of a mark behind it, and what is left after the mark. -/
def lazyMark : List Char → Bool × List Char
  | '?' :: rest => (true, rest)
  | text => (false, text)

/-- Adds a repetition that ends in front of `rest` with its bounds and its mark. -/
def ReaderState.pushRepetition (state : ReaderState) (piece : Tree) (min : Nat)
    (max : Option Nat) (isLazy : Bool) (rest : List Char) : ReaderState :=
  state.push (.repetition piece min max (!isLazy) ⟨piece.span.first, rest⟩)

/-- A repetition by one character. -/
def simpleRepetition (state : ReaderState) (min : Nat) (max : Option Nat) (text : List Char) :
    Except SyntaxFault (ReaderState × List Char) :=
  match repeated? state with
  | none => failHere .repetitionMissing text
  | some (piece, state) =>
    let (isLazy, rest) := lazyMark (text.drop 1)
    .ok (state.pushRepetition piece min max isLazy rest, rest)

/-- The least and the greatest count of a repetition, and the text at its closing brace. -/
def repetitionBounds (verbose : Bool) (text inside : List Char) :
    Except SyntaxFault ((Nat × Option Nat) × List Char) :=
  let (first, afterFirst) := count verbose inside
  match afterFirst with
  | [] => fail .repetitionCountUnclosed text []
  | ',' :: _ =>
    match advance verbose afterFirst with
    | [] => fail .repetitionCountUnclosed text []
    | '\x7d' :: rest => do
      let min ← first
      .ok ((min, none), '\x7d' :: rest)
    | second => do
      let min ← first
      let (max, rest) := count verbose second
      let max ← max
      .ok ((min, some max), rest)
  | _ => do
    let exact ← first
    .ok ((exact, some exact), afterFirst)

/-- A repetition with bounds in braces. -/
def countedRepetition (state : ReaderState) (text : List Char) :
    Except SyntaxFault (ReaderState × List Char) :=
  match repeated? state with
  | none => failHere .repetitionMissing text
  | some (piece, state) =>
    match advance state.verbose text with
    | [] => fail .repetitionCountUnclosed text []
    | inside => do
      let ((min, max), close) ← repetitionBounds state.verbose text inside
      match close with
      | '\x7d' :: _ =>
        let (isLazy, rest) := lazyMark (advance state.verbose close)
        if max.all (min ≤ ·) then .ok (state.pushRepetition piece min max isLazy rest, rest)
        else fail .repetitionCountInvalid text rest
      | _ => fail .repetitionCountUnclosed text close

/-! ### Expressions -/

/-- The piece of an atom. -/
def Atom.tree : Atom → Tree
  | .literal written => .literal written
  | .charClass content => .charClass content
  | .assertion kind span => .assertion kind span

/-- Reads the next piece; `text` is not empty. -/
def readPiece (state : ReaderState) (text : List Char) :
    Except SyntaxFault (ReaderState × List Char) :=
  match text with
  | [] => .ok (state, [])
  | '(' :: _ => openGroup state text
  | ')' :: rest =>
    match state.leave? text with
    | some outer => .ok (outer, rest)
    | none => failNext .groupUnopened text
  | '|' :: rest => .ok (state.nextBranch text, rest)
  | '[' :: _ => do
    let (content, rest) ← bracketClass state.verbose text
    .ok (state.push (.charClass content), rest)
  | '?' :: _ => simpleRepetition state 0 (some 1) text
  | '*' :: _ => simpleRepetition state 0 none text
  | '+' :: _ => simpleRepetition state 1 none text
  | '\x7b' :: _ => countedRepetition state text
  | '\\' :: _ => do
    let (atom, rest) ← escape state.verbose text
    .ok (state.push atom.tree, rest)
  | '.' :: rest => .ok (state.push (.anyChar ⟨text, rest⟩), rest)
  | '^' :: rest => .ok (state.push (.assertion .lineStart ⟨text, rest⟩), rest)
  | '$' :: rest => .ok (state.push (.assertion .lineEnd ⟨text, rest⟩), rest)
  | char :: rest => .ok (state.push (.literal (verbatim char text rest)), rest)

/-- Reads pieces until the text ends. -/
def readPieces : Nat → ReaderState → List Char → Except SyntaxFault ReaderState
  | 0, state, _ => .ok state
  | steps + 1, state, text =>
    match skip state.verbose text with
    | [] => .ok state
    | next => do
      let (state, rest) ← readPiece state next
      readPieces steps state rest

/-- The expression that a text writes. -/
def Tree.ofText (text : List Char) : Except SyntaxFault Tree := do
  let state ← readPieces (text.length + 1) (.initial text) text
  match state.groups with
  | [] => .ok (state.contentUpTo [])
  | innermost :: _ => .error { fault := .groupUnclosed, span := innermost.span }

end ConsumerContract.Pattern
