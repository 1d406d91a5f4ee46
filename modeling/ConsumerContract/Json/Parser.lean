/-
This file reads JSON. The tokens of a text are taken one by one; what has been
read so far is a stack of open lists and objects, together with what may follow.
At most 127 of them may be open at once. Of members with one key the last one is
kept, and the members of an object are put into key order.
-/

import ConsumerContract.Json.Basic
import ConsumerContract.Json.Token

namespace ConsumerContract.Json

/-- A list or an object that has been opened; the last part that was read comes first. -/
inductive Opened where
  | list (items : List Json)
  | object (members : List (String × Json)) (key : String)
  deriving Inhabited

/-- What may follow next. -/
inductive Awaited where
  | value
  | itemOrEnd
  | item
  | listEnd
  | keyOrEnd
  | key
  | colon
  | objectEnd
  /-- Nothing but the end, since the value is complete. -/
  | nothing (value : Json)
  deriving Inhabited

/-- What has been read so far: the innermost opened collection comes first. -/
structure Progress where
  opened : List Opened
  awaited : Awaited
  deriving Inhabited

/-- How many lists and objects may be open at once. -/
def nestingLimit : Nat := 127

namespace Progress

/-- The start of a text. -/
def start : Progress := ⟨[], .value⟩

/-- Puts a complete value into the innermost opened collection. -/
def complete (opened : List Opened) (value : Json) : Progress :=
  match opened with
  | [] => ⟨[], .nothing value⟩
  | .list items :: outer => ⟨.list (value :: items) :: outer, .listEnd⟩
  | .object members key :: outer => ⟨.object ((key, value) :: members) key :: outer, .objectEnd⟩

/-- Opens a list or an object. -/
def enter (opened : List Opened) (token : JsonToken) (inner : Opened) (awaited : Awaited) :
    Except JsonFault Progress :=
  if opened.length < nestingLimit then .ok ⟨inner :: opened, awaited⟩
  else .error ⟨.tooDeep, token.start + 1⟩

/-- A token where a value has to start. -/
def value (opened : List Opened) (token : JsonToken) : Except JsonFault Progress :=
  match token.lexeme with
  | .listStart => enter opened token (.list []) .itemOrEnd
  | .objectStart => enter opened token (.object [] "") .keyOrEnd
  | .null => .ok (complete opened .null)
  | .bool value => .ok (complete opened (.bool value))
  | .number numeral => .ok (complete opened (.number numeral))
  | .text text none => .ok (complete opened (.string text))
  | .text _ (some fault) | .broken _ fault _ => .error fault
  | _ => .error ⟨.expectedValue, token.start + 1⟩

/-- Closes the innermost list. -/
def closeList : List Opened → Progress
  | .list items :: outer => complete outer (.array items.reverse)
  | other => ⟨other, .value⟩

/-- Closes the innermost object. -/
def closeObject : List Opened → Progress
  | .object members _ :: outer => complete outer (.object (Keyed.ofList members.reverse))
  | other => ⟨other, .value⟩

/-- A token where a key has to start. -/
def key (opened : List Opened) (token : JsonToken) : Except JsonFault Progress :=
  match token.lexeme, opened with
  | .text text none, .object members _ :: outer => .ok ⟨.object members text :: outer, .colon⟩
  | .text _ (some fault), _ | .broken true fault _, _ => .error fault
  | _, _ => .error ⟨.keyNotText, token.start + 1⟩

/-- Takes one token. -/
def step (progress : Progress) (token : JsonToken) : Except JsonFault Progress :=
  let unexpected (problem : JsonProblem) : Except JsonFault Progress :=
    .error ⟨problem, token.start + 1⟩
  let opened := progress.opened
  match progress.awaited with
  | .value => value opened token
  | .itemOrEnd => if token.lexeme = .listEnd then .ok (closeList opened) else value opened token
  | .item => if token.lexeme = .listEnd then unexpected .trailingComma else value opened token
  | .listEnd =>
    match token.lexeme with
    | .listEnd => .ok (closeList opened)
    | .comma => .ok ⟨opened, .item⟩
    | _ => unexpected .expectedListEnd
  | .keyOrEnd => if token.lexeme = .objectEnd then .ok (closeObject opened) else key opened token
  | .key => if token.lexeme = .objectEnd then unexpected .trailingComma else key opened token
  | .colon => if token.lexeme = .colon then .ok ⟨opened, .value⟩ else unexpected .expectedColon
  | .objectEnd =>
    match token.lexeme with
    | .objectEnd => .ok (closeObject opened)
    | .comma => .ok ⟨opened, .key⟩
    | _ => unexpected .expectedObjectEnd
  | .nothing _ => unexpected .trailingCharacters

/-- The value, if the text may end here. -/
def finish (progress : Progress) (size : Nat) : Except JsonFault Json :=
  match progress.awaited with
  | .nothing value => .ok value
  | .value | .item | .key => .error ⟨.endInValue, size⟩
  | .itemOrEnd | .listEnd => .error ⟨.endInList, size⟩
  | .keyOrEnd | .colon | .objectEnd => .error ⟨.endInObject, size⟩

end Progress

/-- The value that a text writes. -/
def ofText (text : String) : Except JsonFault Json := do
  let progress ← (JsonToken.ofText text).foldlM Progress.step .start
  progress.finish text.utf8ByteSize

/-- The value that a text writes, or the message about why it is none. -/
def parse (text : String) : Except String Json :=
  (ofText text).mapError (·.message text)

end ConsumerContract.Json
