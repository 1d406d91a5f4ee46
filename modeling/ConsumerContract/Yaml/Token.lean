/-
This file cuts YAML documents into tokens. Indentation becomes tokens as well:
one where a collection in block style starts and one where it ends. A scalar or a
collection in flow style may turn out to be the key of a mapping when the colon
behind it is met, so a token is final only when no key can start at it any more.
Tokens are read as late as possible, which matters for a fault: what is final in
front of it has been used by then.
-/

import ConsumerContract.Yaml.Scalar

namespace ConsumerContract.Yaml

/-- What a token says. -/
inductive TokenKind where
  | documentStart
  | documentEnd
  | blockSequenceStart
  | blockMappingStart
  | blockEnd
  | flowSequenceStart
  | flowSequenceEnd
  | flowMappingStart
  | flowMappingEnd
  | blockEntry
  | flowEntry
  | key
  | value
  | alias
  | scalar (isPlain : Bool) (text : String)
  | streamEnd
  deriving DecidableEq, Repr, Inhabited

/-- A token and the part of the text that it was read from. -/
structure Token where
  kind : TokenKind
  start : TextPlace
  stop : TextPlace
  deriving DecidableEq, Repr, Inhabited

/-- A token that may turn out to start a key. -/
structure PossibleKey where
  /-- The number of the token. -/
  number : Nat
  place : TextPlace
  index : Nat
  /-- Nothing but a key can stand in this column. -/
  isRequired : Bool
  deriving DecidableEq, Repr, Inhabited

/-- What has been read of a document. Columns are counted from one on, so that there is
a zeroth one for what is around all collections. -/
structure TokenReader where
  text : Text
  /-- The tokens, the last one first. -/
  tokens : List Token := []
  count : Nat := 0
  /-- How many tokens have been used. -/
  used : Nat := 0
  /-- The columns of the block collections around, the innermost first. -/
  columns : List Nat := []
  /-- The possible key in each of the flow collections around, the innermost first; the last
  one is outside of all. -/
  keys : List (Option PossibleKey) := [none]
  /-- Whether a key may start here. -/
  keyAllowed : Bool := true
  deriving Repr, Inhabited

namespace TokenReader

/-! ### Surroundings -/

/-- Whether a collection in flow style is around. -/
def inFlow (reader : TokenReader) : Bool :=
  1 < reader.keys.length

/-- The column of the innermost block collection. -/
def column (reader : TokenReader) : Nat :=
  (reader.columns.head?).getD 0

/-- The possible key of the innermost collection. -/
def key? (reader : TokenReader) : Option PossibleKey :=
  reader.keys.head?.join

/-- Replaces the possible key of the innermost collection. -/
def setKey (reader : TokenReader) (key : Option PossibleKey) : TokenReader :=
  { reader with keys := key :: reader.keys.tail }

/-! ### Adding tokens -/

/-- Adds a token behind all others. -/
def push (reader : TokenReader) (kind : TokenKind) (start stop : TextPlace) : TokenReader :=
  { reader with tokens := ⟨kind, start, stop⟩ :: reader.tokens, count := reader.count + 1 }

/-- Adds a token in front of the token with a number. -/
def insert (reader : TokenReader) (number : Nat) (kind : TokenKind) (place : TextPlace) :
    TokenReader :=
  let behind := reader.count - number
  { reader with
    tokens := reader.tokens.take behind ++ ⟨kind, place, place⟩ :: reader.tokens.drop behind
    count := reader.count + 1 }

/-- Adds a token of one or more characters. -/
def pushChars (reader : TokenReader) (kind : TokenKind) (length : Nat) : TokenReader :=
  let behind : Text := reader.text.drop length
  { reader.push kind reader.text.place behind.place with text := behind }

/-- Starts a block collection in a column further to the right; it comes in front of the
token with a number, if there is one. -/
def indent (reader : TokenReader) (column : Nat) (kind : TokenKind) (place : TextPlace)
    (number : Option Nat) : TokenReader :=
  if reader.inFlow ∨ column ≤ reader.column then reader
  else
    let reader := { reader with columns := column :: reader.columns }
    match number with
    | some number => reader.insert number kind place
    | none => reader.push kind place place

/-- Ends the block collections to the right of a column. -/
def outdent (reader : TokenReader) (column : Nat) : TokenReader :=
  if reader.inFlow then reader
  else
    let ended := reader.columns.takeWhile (column < ·)
    let place := reader.text.place
    ended.foldl (fun reader _ => reader.push .blockEnd place place)
      { reader with columns := reader.columns.drop ended.length }

/-! ### Keys -/

/-- The fault of a key without a colon. -/
def missingColon (reader : TokenReader) (key : PossibleKey) : Fault :=
  ⟨.missingColon, reader.text.place, some (.simpleKey, key.place)⟩

/-- Notes that a key may start at the next token. -/
def noteKey (reader : TokenReader) : Except Fault TokenReader :=
  if !reader.keyAllowed then .ok reader
  else
    match reader.key?.filter (·.isRequired) with
    | some key => .error (reader.missingColon key)
    | none =>
      let place := reader.text.place
      .ok (reader.setKey (some {
        number := reader.count, place, index := reader.text.index
        isRequired := !reader.inFlow && place.column = reader.column }))

/-- Gives up the possible key of the innermost collection. -/
def dropKey (reader : TokenReader) : Except Fault TokenReader :=
  match reader.key?.filter (·.isRequired) with
  | some key => .error (reader.missingColon key)
  | none => .ok (reader.setKey none)

/-- Whether a colon can not come any more: a key is on one line, and not too long. -/
def isStale (reader : TokenReader) (key : PossibleKey) : Bool :=
  key.place.line < reader.text.place.line || key.index + 1024 < reader.text.index

/-- Gives up all keys whose colon can not come any more. -/
def dropStaleKeys (reader : TokenReader) : Except Fault TokenReader :=
  match reader.keys.reverse.findSome? fun key =>
      key.filter fun key => reader.isStale key && key.isRequired with
  | some key => .error (reader.missingColon key)
  | none => .ok { reader with keys := reader.keys.map fun key => key.filter (!reader.isStale ·) }

/-! ### Single tokens -/

/-- A fault at the next character. -/
def fail {α : Type} (reader : TokenReader) (problem : Problem)
    (during : Option (Activity × TextPlace)) : Except Fault α :=
  .error ⟨problem, reader.text.place, during⟩

/-- The text from the next token on, and whether a key may start there. A new line may start
with a key, and where one may start there must be no tabs in front. -/
def skipped (inFlow keyAllowed inComment : Bool) : Text → Text × Bool
  | [] => ([], keyAllowed)
  | current :: rest =>
    if isBreak current.char then skipped inFlow (keyAllowed || !inFlow) false rest
    else if current.char = endMark then (current :: rest, keyAllowed)
    else if inComment then skipped inFlow keyAllowed true rest
    else if current.char = '#' then skipped inFlow keyAllowed true rest
    else if current.char = ' ' ∨ (current.char = '\t' ∧ (inFlow ∨ !keyAllowed)) ∨
        (current.char = '\uFEFF' ∧ current.place.column = 1) then
      skipped inFlow keyAllowed false rest
    else (current :: rest, keyAllowed)

/-- Goes to the next token. -/
def skip (reader : TokenReader) : TokenReader :=
  let (text, keyAllowed) := skipped reader.inFlow reader.keyAllowed false reader.text
  { reader with text, keyAllowed }

/-- The end of a text. It counts as the start of a line. -/
def readEnd (reader : TokenReader) : Except Fault TokenReader := do
  let place := reader.text.place
  let place := if place.column = 1 then place else ⟨place.line + 1, 1⟩
  let text := reader.text.map fun current => { current with place }
  let reader := { reader with text }.outdent 0
  let reader ← reader.dropKey
  return { reader.push .streamEnd place place with keyAllowed := false }

/-- A mark between documents. -/
def readSeparator (reader : TokenReader) (kind : TokenKind) : Except Fault TokenReader := do
  let reader ← (reader.outdent 0).dropKey
  return { reader.pushChars kind 3 with keyAllowed := false }

/-- The start of a collection in flow style. -/
def readFlowStart (reader : TokenReader) (kind : TokenKind) : Except Fault TokenReader := do
  let reader ← reader.noteKey
  return { reader.pushChars kind 1 with keys := none :: reader.keys, keyAllowed := true }

/-- The end of a collection in flow style. -/
def readFlowEnd (reader : TokenReader) (kind : TokenKind) : Except Fault TokenReader := do
  let reader ← reader.dropKey
  let keys := if reader.inFlow then reader.keys.tail else reader.keys
  return { reader.pushChars kind 1 with keys, keyAllowed := false }

/-- A comma. -/
def readFlowEntry (reader : TokenReader) : Except Fault TokenReader := do
  let reader ← reader.dropKey
  return { reader.pushChars .flowEntry 1 with keyAllowed := true }

/-- A hyphen in front of an item. -/
def readBlockEntry (reader : TokenReader) : Except Fault TokenReader := do
  if !reader.inFlow && !reader.keyAllowed then reader.fail .misplacedEntry none
  let place := reader.text.place
  let reader ← (reader.indent place.column .blockSequenceStart place none).dropKey
  return { reader.pushChars .blockEntry 1 with keyAllowed := true }

/-- A question mark in front of a key. -/
def readKey (reader : TokenReader) : Except Fault TokenReader := do
  if !reader.inFlow && !reader.keyAllowed then reader.fail .misplacedKey none
  let place := reader.text.place
  let reader ← (reader.indent place.column .blockMappingStart place none).dropKey
  return { reader.pushChars .key 1 with keyAllowed := !reader.inFlow }

/-- A colon in front of a value. The key in front of it may have been a possible one. -/
def readValue (reader : TokenReader) : Except Fault TokenReader := do
  let place := reader.text.place
  match reader.key? with
  | some key =>
    let reader := reader.insert key.number .key key.place
    let reader := reader.indent key.place.column .blockMappingStart key.place (some key.number)
    let reader := reader.setKey none
    return { reader.pushChars .value 1 with keyAllowed := false }
  | none =>
    if !reader.inFlow && !reader.keyAllowed then reader.fail .misplacedValue none
    let reader := reader.indent place.column .blockMappingStart place none
    return { reader.pushChars .value 1 with keyAllowed := !reader.inFlow }

/-- A scalar in quotes. -/
def readQuoted (reader : TokenReader) (read : TextPlace → Text → ScalarResult) :
    Except Fault TokenReader := do
  let reader ← reader.noteKey
  let start := reader.text.place
  let (text, behind) ← read start reader.text.tail
  return { reader.push (.scalar false text) start behind.place with
    text := behind, keyAllowed := false }

/-- A plain scalar. Behind the end of its line a key may start. -/
def readPlain (reader : TokenReader) : Except Fault TokenReader := do
  let reader ← reader.noteKey
  let start := reader.text.place
  let scalar ← plain reader.inFlow reader.column start start [] {} reader.text
  return { reader.push (.scalar true scalar.text) start scalar.stop with
    text := scalar.behind, keyAllowed := scalar.endsLine }

/-- The name of another value. Names are not kept, so none is known. -/
def readAlias (reader : TokenReader) : Except Fault TokenReader := do
  let reader ← reader.noteKey
  let name := reader.text.tail.takeWhile fun current =>
    current.char.isAlphanum || current.char = '-' || current.char = '_'
  return { reader.pushChars .alias (name.length + 1) with keyAllowed := false }

/-- Reads the next token. -/
def next (reader : TokenReader) : Except Fault TokenReader := do
  let reader ← reader.skip.dropStaleKeys
  let reader := reader.outdent reader.text.place.column
  let text := reader.text
  let followed := Text.atWordEnd text.tail
  if text.char = endMark then reader.readEnd
  else if text.atDocumentMark '-' then reader.readSeparator .documentStart
  else if text.atDocumentMark '.' then reader.readSeparator .documentEnd
  else if text.char = '[' then reader.readFlowStart .flowSequenceStart
  else if text.char = '\x7b' then reader.readFlowStart .flowMappingStart
  else if text.char = ']' then reader.readFlowEnd .flowSequenceEnd
  else if text.char = '\x7d' then reader.readFlowEnd .flowMappingEnd
  else if text.char = ',' then reader.readFlowEntry
  else if text.char = '-' && followed then reader.readBlockEntry
  else if text.char = '?' && (reader.inFlow || followed) then reader.readKey
  else if text.char = ':' && (reader.inFlow || followed) then reader.readValue
  else if text.char = '*' then reader.readAlias
  else if text.char = '\'' then reader.readQuoted fun start => singleQuoted start [] {}
  else if text.char = '"' then reader.readQuoted fun start => doubleQuoted start [] (.char {})
  else if startsPlain reader.inFlow text then reader.readPlain
  else if ['&', '!', '|', '>', '%'].contains text.char then reader.fail .unsupported none
  else reader.fail .unexpectedCharacter (some (.nextToken, text.place))

/-! ### All tokens -/

/-- The number of tokens that can be used before another one is read. -/
def usable (reader : TokenReader) : Nat :=
  let waiting := reader.keys.filterMap fun key =>
    (key.filter (reader.used ≤ ·.number)).map (·.number)
  waiting.foldl min reader.count

/-- Whether the end was read. -/
def isFinished (reader : TokenReader) : Bool :=
  reader.tokens.head?.any (·.kind = .streamEnd)

/-- The first tokens, as many as have been used. -/
def usedTokens (reader : TokenReader) : List Token :=
  reader.tokens.reverse.take reader.used

/-- Gives up keys before the next token is used; with no token left that is left to the
reading of another one. -/
def settled (reader : TokenReader) : Except Fault TokenReader :=
  if reader.used < reader.count then reader.dropStaleKeys else .ok reader

/-- All tokens of a text, or those in front of a fault. Every token takes a character or is
the last one. -/
def readAll : Nat → TokenReader → List Token × Option Fault
  | 0, reader => (reader.tokens.reverse, none)
  | steps + 1, reader =>
    match reader.settled with
    | .error fault => (reader.usedTokens, some fault)
    | .ok reader =>
      if reader.isFinished then (reader.tokens.reverse, none)
      else
        let reader := { reader with used := reader.usable }
        match reader.next with
        | .error fault => (reader.usedTokens, some fault)
        | .ok reader => readAll steps reader

end TokenReader

/-- The tokens of a text, or those in front of a fault. -/
def tokensOf (text : String) : List Token × Option Fault :=
  match forbiddenAt? 0 text.toList with
  | some offset => ([], some ⟨.forbiddenCharacter offset, ⟨1, 1⟩, none⟩)
  | none =>
    let text := Text.ofString text
    TokenReader.readAll (text.length + 2) { text }

end ConsumerContract.Yaml
