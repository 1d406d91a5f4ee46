/-
This file reads JSON texts as records. A record is an object with known fields,
or a list of their values in order. Each value is checked while it is read, so
the first thing that does not fit is the one that is reported, whether it is a
fault of the text or a value of another kind. Unknown fields are skipped.
-/

import ConsumerContract.Character.Quoted
import ConsumerContract.Json.Token

namespace ConsumerContract

/-- Why a text does not hold the record that was asked for. -/
inductive RecordProblem where
  | notJson (problem : JsonProblem)
  | unexpected (found expected : String)
  | missingField (field : String)
  | duplicateField (field : String)
  /-- A list with too few values for the fields. -/
  | tooShort (size : Nat) (expected : String)
  deriving DecidableEq, Repr, Inhabited

/-- The wording of a problem. -/
def RecordProblem.message : RecordProblem → String
  | notJson problem => problem.message
  | unexpected found expected => "invalid type: " ++ found ++ ", expected " ++ expected
  | missingField field => "missing field `" ++ field ++ "`"
  | duplicateField field => "duplicate field `" ++ field ++ "`"
  | tooShort size expected =>
    "invalid length " ++ decimalText size ++ ", expected " ++ expected

/-- A problem after a number of bytes of a text. -/
structure RecordFault where
  problem : RecordProblem
  offset : Nat
  deriving DecidableEq, Repr, Inhabited

/-- The wording of a fault in a text. -/
def RecordFault.message (fault : RecordFault) (text : String) : String :=
  messageAt fault.problem.message text fault.offset

/-- The tokens that have not been read, and the bytes of the whole text. -/
structure JsonCursor where
  tokens : List JsonToken
  size : Nat
  deriving Repr, Inhabited

/-- Reads a value at a cursor and gives the cursor behind it. -/
abbrev JsonReader (α : Type) := StateT JsonCursor (Except RecordFault) α

namespace JsonReader

/-- Stops with a problem. -/
def fail {α : Type} (problem : RecordProblem) (offset : Nat) : JsonReader α :=
  throw ⟨problem, offset⟩

/-- Stops with a fault of the text. -/
def refuse {α : Type} (fault : JsonFault) : JsonReader α :=
  fail (.notJson fault.problem) fault.offset

/-- Stops at a token that can not stand where it stands. -/
def refuseToken {α : Type} (token : JsonToken) (problem : JsonProblem) : JsonReader α :=
  refuse ⟨problem, token.start + 1⟩

/-- The next token. -/
def peek? : JsonReader (Option JsonToken) := do
  return (← get).tokens.head?

/-- The next token; the text must not end here. -/
def peek (problem : JsonProblem) : JsonReader JsonToken := do
  match ← peek? with
  | some token => return token
  | none => refuse ⟨problem, (← get).size⟩

/-- Leaves the next token behind. -/
def drop : JsonReader Unit :=
  modify fun cursor => { cursor with tokens := cursor.tokens.tail }

/-! ### Values that are skipped -/

/-- What may follow in a value that is skipped. -/
inductive Skipped where
  | value
  | itemOrEnd
  | keyOrEnd
  | key
  | colon
  | commaOrEnd
  deriving DecidableEq, Repr

/-- What may follow behind a value, given the collections that are open: true stands for an
object. -/
def behindValue : List Bool → Option Skipped
  | [] => none
  | _ => some .commaOrEnd

/-- Closes the innermost collection. -/
def closed (opened : List Bool) : List Bool × Option Skipped :=
  (opened.tail, behindValue opened.tail)

/-- Skips a token where a value has to start. -/
def skipValueToken (opened : List Bool) (token : JsonToken) :
    Except RecordFault (List Bool × Option Skipped) :=
  match token.lexeme with
  | .listStart => .ok (false :: opened, some .itemOrEnd)
  | .objectStart => .ok (true :: opened, some .keyOrEnd)
  | .null | .bool _ | .number _ | .text .. => .ok (opened, behindValue opened)
  | .broken _ _ fault => .error ⟨.notJson fault.problem, fault.offset⟩
  | _ => .error ⟨.notJson .expectedValue, token.start + 1⟩

/-- Skips a token where a key has to start. -/
def skipKeyToken (opened : List Bool) (token : JsonToken) :
    Except RecordFault (List Bool × Option Skipped) :=
  match token.lexeme with
  | .text .. => .ok (opened, some .colon)
  | .broken true _ fault => .error ⟨.notJson fault.problem, fault.offset⟩
  | _ => .error ⟨.notJson .keyNotText, token.start + 1⟩

/-- Skips a token behind a value. -/
def skipBehindValue (opened : List Bool) (token : JsonToken) :
    Except RecordFault (List Bool × Option Skipped) :=
  let inObject := opened.head? = some true
  match token.lexeme with
  | .comma => .ok (opened, some (if inObject then .key else .value))
  | .listEnd =>
    if inObject then .error ⟨.notJson .expectedObjectEnd, token.start + 1⟩ else .ok (closed opened)
  | .objectEnd =>
    if inObject then .ok (closed opened) else .error ⟨.notJson .expectedListEnd, token.start + 1⟩
  | _ =>
    .error ⟨.notJson (if inObject then .expectedObjectEnd else .expectedListEnd), token.start + 1⟩

/-- Skips one token. Nothing follows once the value is complete. -/
def skipToken (opened : List Bool) (awaited : Skipped) (token : JsonToken) :
    Except RecordFault (List Bool × Option Skipped) :=
  match awaited with
  | .value => skipValueToken opened token
  | .itemOrEnd =>
    if token.lexeme = .listEnd then .ok (closed opened) else skipValueToken opened token
  | .keyOrEnd =>
    if token.lexeme = .objectEnd then .ok (closed opened) else skipKeyToken opened token
  | .key => skipKeyToken opened token
  | .colon =>
    if token.lexeme = .colon then .ok (opened, some .value)
    else .error ⟨.notJson .expectedColon, token.start + 1⟩
  | .commaOrEnd => skipBehindValue opened token

/-- The fault of a text that ends inside a value that is skipped. -/
def skipEnd (opened : List Bool) (awaited : Skipped) : JsonProblem :=
  match awaited, opened with
  | .value, _ => .endInValue
  | .itemOrEnd, _ | .commaOrEnd, false :: _ => .endInList
  | _, _ => .endInObject

/-- Skips tokens up to the end of a value. -/
def skipTokens (size : Nat) (opened : List Bool) (awaited : Skipped) :
    List JsonToken → Except RecordFault (List JsonToken)
  | [] => .error ⟨.notJson (skipEnd opened awaited), size⟩
  | token :: rest =>
    match skipToken opened awaited token with
    | .error fault => .error fault
    | .ok (_, none) => .ok rest
    | .ok (opened, some awaited) => skipTokens size opened awaited rest

/-- Skips a value. -/
def skip : JsonReader Unit := fun cursor => do
  let rest ← skipTokens cursor.size [] .value cursor.tokens
  return ((), { cursor with tokens := rest })

/-! ### Single values -/

/-- A number in messages; only whole numbers of 64 bits are shown. -/
def numberText (numeral : Numeral) : String :=
  let shown : Option Int :=
    if numeral.negative then numeral.toInt64?.map Int64.toInt
    else numeral.toUInt64?.map fun number => number.toNat
  match shown with
  | some number => "integer `" ++ signedText number ++ "`"
  | none => "number"

/-- Stops at a value of another kind. A list and an object are refused at their start, other
values behind their end. -/
def refuseKind {α : Type} (token : JsonToken) (expected : String) : JsonReader α :=
  let unexpected (found : String) (offset : Nat) : JsonReader α :=
    fail (.unexpected found expected) offset
  match token.lexeme with
  | .null => unexpected "null" token.stop
  | .bool value => unexpected (if value then "boolean `true`" else "boolean `false`") token.stop
  | .number numeral => unexpected (numberText numeral) token.stop
  | .text text none => unexpected ("string " ++ Character.quoted text) token.stop
  | .listStart => unexpected "sequence" token.start
  | .objectStart => unexpected "map" token.start
  | .text _ (some fault) | .broken _ fault _ => refuse fault
  | _ => refuseToken token .expectedValue

/-- A string. -/
def text : JsonReader String := do
  let token ← peek .endInValue
  match token.lexeme with
  | .text text none => do drop; return text
  | _ => refuseKind token "a string"

/-- A string or null. -/
def text? : JsonReader (Option String) := do
  let token ← peek .endInValue
  if token.lexeme = .null then do drop; return none
  else some <$> text

/-! ### Lists -/

/-- Whether a list goes on. -/
def hasItem (first : Bool) : JsonReader Bool := do
  let token ← peek .endInList
  if token.lexeme = .listEnd then return false
  else if first then return true
  else if token.lexeme = .comma then do
    drop
    let next ← peek .endInValue
    if next.lexeme = .listEnd then refuseToken next .trailingComma else return true
  else refuseToken token .expectedListEnd

/-- The end of a list in which nothing more is looked for. -/
def listEnd : JsonReader Unit := do
  let token ← peek .endInList
  match token.lexeme with
  | .listEnd => drop
  | .comma => do
    drop
    match ← peek? with
    | none => refuse ⟨.trailingCharacters, (← get).size⟩
    | some next =>
      if next.lexeme = .listEnd then refuseToken next .trailingComma
      else refuseToken next .trailingCharacters
  | _ => refuseToken token .trailingCharacters

/-- At most `count` items of a list. -/
def itemsUpTo {α : Type} (item : JsonReader α) : Nat → Bool → JsonReader (List α)
  | 0, _ => return []
  | count + 1, first => do
    if ← hasItem first then
      let head ← item
      let rest ← itemsUpTo item count false
      return head :: rest
    else return []

/-- A list with items of one kind. -/
def list {α : Type} (item : JsonReader α) : JsonReader (List α) := do
  let token ← peek .endInValue
  if token.lexeme = .listStart then do
    drop
    let items ← itemsUpTo item (← get).tokens.length true
    listEnd
    return items
  else refuseKind token "a sequence"

/-! ### Records -/

/-- A record that is built field by field. -/
structure Shape (σ α : Type) where
  /-- What a value has to be, for messages. -/
  expected : String
  /-- The record before a field is read. -/
  empty : σ
  /-- The fields in order. -/
  fields : List String
  /-- Whether a field has been read. -/
  has : σ → String → Bool
  /-- Reads the value of a field. -/
  field : σ → String → JsonReader σ
  /-- The record, or the first field that is missing. -/
  finish : σ → Except String α

/-- Where reading stands once it has given up inside an object: behind a closing bracket, or
in front of any other token. -/
def givenUp : JsonReader Nat := do
  match ← peek? with
  | none => return (← get).size
  | some token => return if token.lexeme = .objectEnd then token.stop else token.start

/-- Whether an object goes on with a key. -/
def hasKey (first : Bool) : JsonReader Bool := do
  let token ← peek .endInObject
  if token.lexeme = .objectEnd then return false
  else if first then return true
  else if token.lexeme = .comma then do
    drop
    let next ← peek .endInValue
    if next.lexeme = .objectEnd then refuseToken next .trailingComma else return true
  else refuseToken token .expectedObjectEnd

/-- A key. -/
def key : JsonReader String := do
  let token ← peek .endInObject
  match token.lexeme with
  | .text text none => do drop; return text
  | .text _ (some fault) | .broken true fault _ => refuse fault
  | _ => refuseToken token .keyNotText

/-- The colon behind a key. -/
def colon : JsonReader Unit := do
  let token ← peek .endInObject
  if token.lexeme = .colon then drop else refuseToken token .expectedColon

variable {σ α : Type}

/-- At most `count` members of an object. -/
def members (shape : Shape σ α) : Nat → Bool → σ → JsonReader σ
  | 0, _, built => return built
  | count + 1, first, built => do
    if ← hasKey first then
      let name ← key
      if name ∈ shape.fields then
        if shape.has built name then fail (.duplicateField name) (← givenUp)
        colon
        let next ← shape.field built name
        members shape count false next
      else
        colon
        skip
        members shape count false built
    else return built

/-- The values of some fields, as far as a list has them. -/
def valuesInOrder (shape : Shape σ α) : List String → Bool → σ → JsonReader σ
  | [], _, built => return built
  | name :: others, first, built => do
    if ← hasItem first then
      let next ← shape.field built name
      valuesInOrder shape others false next
    else return built

/-- How a list for the record has to be, for messages. -/
def Shape.listText (shape : Shape σ α) : String :=
  shape.expected ++ " with " ++ decimalText shape.fields.length ++
    (if shape.fields.length = 1 then " element" else " elements")

/-- A record. -/
def record (shape : Shape σ α) : JsonReader α := do
  let token ← peek .endInValue
  match token.lexeme with
  | .objectStart => do
    drop
    let built ← members shape (← get).tokens.length true shape.empty
    let last ← peek .endInObject
    drop
    match shape.finish built with
    | .ok value => return value
    | .error field => fail (.missingField field) last.stop
  | .listStart => do
    drop
    let built ← valuesInOrder shape shape.fields true shape.empty
    match shape.finish built with
    | .ok value => do
      listEnd
      return value
    | .error _ => do
      let size := (shape.fields.filter (shape.has built)).length
      let last ← peek .endInList
      fail (.tooShort size shape.listText) last.stop
  | _ => refuseKind token shape.expected

/-- Reads a whole text. -/
def run {α : Type} (reader : JsonReader α) (text : String) : Except RecordFault α := do
  let (value, cursor) ← reader ⟨JsonToken.ofText text, text.utf8ByteSize⟩
  match cursor.tokens with
  | [] => .ok value
  | token :: _ => .error ⟨.notJson .trailingCharacters, token.start + 1⟩

end JsonReader

end ConsumerContract
