/-
This file reads the events of YAML documents off their tokens: scalars, and the
starts and ends of collections. What is expected next is a stack, the innermost
first. Values that are left out are empty scalars. Events in front of a fault
are kept, since what is wrong with them is reported before the fault.
-/

import ConsumerContract.Yaml.Token

namespace ConsumerContract.Yaml

/-- What happens in a document. -/
inductive EventKind where
  | scalar (isPlain : Bool) (text : String)
  | sequenceStart
  | sequenceEnd
  | mappingStart
  | mappingEnd
  deriving DecidableEq, Repr, Inhabited

/-- Something that happens in a document, and where. -/
structure Event where
  kind : EventKind
  place : TextPlace
  deriving DecidableEq, Repr, Inhabited

/-- What is expected next. Collections know where they started. -/
inductive Expected where
  /-- An item of a sequence in block style, or its end. -/
  | blockItem (start : TextPlace)
  /-- The same for a sequence that is not indented further than the mapping around it. -/
  | flushItem
  | blockKey (start : TextPlace)
  | blockValue (start : TextPlace)
  /-- An item of a sequence in flow style, or its end; before all but the first is a comma. -/
  | flowItem (start : TextPlace) (isFirst : Bool)
  /-- The parts of a mapping with one entry, which needs no braces inside a sequence. -/
  | pairKey
  | pairValue
  | pairEnd
  | flowKey (start : TextPlace) (isFirst : Bool)
  | flowValue (start : TextPlace) (isMissing : Bool)
  deriving DecidableEq, Repr, Inhabited

/-- Tokens that are left, and the fault that is behind them. -/
structure Tokens where
  list : List Token
  fault : Option Fault
  deriving Repr, Inhabited

namespace Tokens

/-- The next token, without taking it. Behind the last one there is none to wait for. -/
def peek (tokens : Tokens) : Except Fault Token :=
  match tokens.list, tokens.fault with
  | token :: _, _ => .ok token
  | [], some fault => .error fault
  | [], none => .ok ⟨.streamEnd, ⟨1, 1⟩, ⟨1, 1⟩⟩

/-- The tokens behind the next one. -/
def drop (tokens : Tokens) : Tokens :=
  { tokens with list := tokens.list.tail }

end Tokens

/-- An event, what is expected behind it, and the tokens that are left. -/
abbrev Step := Event × List Expected × Tokens

/-- A value that was left out. -/
def emptyScalar (place : TextPlace) : Event :=
  ⟨.scalar true "", place⟩

/-- A value. Where `flush` is true, a sequence may be indented as little as what is around it. -/
def valueStep (inFlow flush : Bool) (behind : List Expected) (tokens : Tokens) :
    Except Fault Step := do
  let token ← tokens.peek
  let place := token.start
  match token.kind with
  | .scalar isPlain text => return (⟨.scalar isPlain text, place⟩, behind, tokens.drop)
  | .alias => .error ⟨.unknownAnchor, place, none⟩
  | .flowSequenceStart =>
    return (⟨.sequenceStart, place⟩, .flowItem place true :: behind, tokens.drop)
  | .flowMappingStart =>
    return (⟨.mappingStart, place⟩, .flowKey place true :: behind, tokens.drop)
  | .blockSequenceStart =>
    return (⟨.sequenceStart, place⟩, .blockItem place :: behind, tokens.drop)
  | .blockMappingStart =>
    return (⟨.mappingStart, place⟩, .blockKey place :: behind, tokens.drop)
  | kind =>
    if flush && kind = .blockEntry then
      return (⟨.sequenceStart, place⟩, .flushItem :: behind, tokens)
    else
      let activity := if inFlow then Activity.flowNode else .blockNode
      .error ⟨.missingContent, place, some (activity, place)⟩

/-- A value, or an empty one at `place` if a token of some kinds follows. -/
def valueUnless (ending : List TokenKind) (inFlow flush : Bool) (place : TextPlace)
    (behind : List Expected) (tokens : Tokens) : Except Fault Step := do
  let token ← tokens.peek
  if ending.contains token.kind then return (emptyScalar place, behind, tokens)
  else valueStep inFlow flush behind tokens

/-- Skips the comma in front of all entries but the first. -/
def skipComma (isFirst : Bool) (problem : Problem) (activity : Activity) (start : TextPlace)
    (tokens : Tokens) : Except Fault Tokens := do
  let token ← tokens.peek
  if isFirst then return tokens
  else if token.kind = .flowEntry then return tokens.drop
  else .error ⟨problem, token.start, some (activity, start)⟩

/-- The next event, where something is expected and more is expected behind it. -/
def nextStep (tokens : Tokens) (behind : List Expected) : Expected → Except Fault Step
  | .blockItem start => do
    let token ← tokens.peek
    match token.kind with
    | .blockEntry =>
      valueUnless [.blockEntry, .blockEnd] false false token.stop (.blockItem start :: behind)
        tokens.drop
    | .blockEnd => return (⟨.sequenceEnd, token.start⟩, behind, tokens.drop)
    | _ => .error ⟨.missingHyphen, token.start, some (.blockSequence, start)⟩
  | .flushItem => do
    let token ← tokens.peek
    if token.kind = .blockEntry then
      valueUnless [.blockEntry, .key, .value, .blockEnd] false false token.stop
        (.flushItem :: behind) tokens.drop
    else return (⟨.sequenceEnd, token.start⟩, behind, tokens)
  | .blockKey start => do
    let token ← tokens.peek
    match token.kind with
    | .key =>
      valueUnless [.key, .value, .blockEnd] false true token.stop (.blockValue start :: behind)
        tokens.drop
    | .blockEnd => return (⟨.mappingEnd, token.start⟩, behind, tokens.drop)
    | _ => .error ⟨.missingKey, token.start, some (.blockMapping, start)⟩
  | .blockValue start => do
    let token ← tokens.peek
    if token.kind = .value then
      valueUnless [.key, .value, .blockEnd] false true token.stop (.blockKey start :: behind)
        tokens.drop
    else return (emptyScalar token.start, .blockKey start :: behind, tokens)
  | .flowItem start isFirst => do
    let token ← tokens.peek
    if token.kind = .flowSequenceEnd then
      return (⟨.sequenceEnd, token.start⟩, behind, tokens.drop)
    else
      let tokens ← skipComma isFirst .unclosedSequence .flowSequence start tokens
      let token ← tokens.peek
      match token.kind with
      | .key =>
        return (⟨.mappingStart, token.start⟩, .pairKey :: .flowItem start false :: behind,
          tokens.drop)
      | .flowSequenceEnd => return (⟨.sequenceEnd, token.start⟩, behind, tokens.drop)
      | _ => valueStep true false (.flowItem start false :: behind) tokens
  | .pairKey => do
    let token ← tokens.peek
    if [.value, .flowEntry, .flowSequenceEnd].contains token.kind then
      return (emptyScalar token.stop, .pairValue :: behind, tokens.drop)
    else valueStep true false (.pairValue :: behind) tokens
  | .pairValue => do
    let token ← tokens.peek
    if token.kind = .value then
      let tokens := tokens.drop
      let next ← tokens.peek
      valueUnless [.flowEntry, .flowSequenceEnd] true false next.start (.pairEnd :: behind) tokens
    else return (emptyScalar token.start, .pairEnd :: behind, tokens)
  | .pairEnd => do
    let token ← tokens.peek
    return (⟨.mappingEnd, token.start⟩, behind, tokens)
  | .flowKey start isFirst => do
    let token ← tokens.peek
    if token.kind = .flowMappingEnd then
      return (⟨.mappingEnd, token.start⟩, behind, tokens.drop)
    else
      let tokens ← skipComma isFirst .unclosedMapping .flowMapping start tokens
      let token ← tokens.peek
      match token.kind with
      | .key =>
        let tokens := tokens.drop
        let next ← tokens.peek
        valueUnless [.value, .flowEntry, .flowMappingEnd] true false next.start
          (.flowValue start false :: behind) tokens
      | .flowMappingEnd => return (⟨.mappingEnd, token.start⟩, behind, tokens.drop)
      | _ => valueStep true false (.flowValue start true :: behind) tokens
  | .flowValue start isMissing => do
    let token ← tokens.peek
    if token.kind = .value && !isMissing then
      let tokens := tokens.drop
      let next ← tokens.peek
      valueUnless [.flowEntry, .flowMappingEnd] true false next.start
        (.flowKey start false :: behind) tokens
    else return (emptyScalar token.start, .flowKey start false :: behind, tokens)

/-- The events until nothing more is expected, and the tokens behind them or the fault that
they end with. Every event takes a token or an expectation with it. -/
def eventsFrom : Nat → Step → List Event × Except Fault Tokens
  | 0, (event, _, tokens) => ([event], .ok tokens)
  | _, (event, [], tokens) => ([event], .ok tokens)
  | steps + 1, (event, expected :: behind, tokens) =>
    match nextStep tokens behind expected with
    | .error fault => ([event], .error fault)
    | .ok step =>
      let (events, result) := eventsFrom steps step
      (event :: events, result)

/-! ### Documents -/

/-- The first document of a text. -/
structure Document where
  events : List Event
  /-- What is wrong behind the events. -/
  fault : Option Fault
  /-- Whether other documents follow, or what can not be one. -/
  goesOn : Bool
  deriving Repr, Inhabited

/-- The first step into a document. -/
def firstStep (tokens : Tokens) : Except Fault Step := do
  let token ← tokens.peek
  if token.kind = .documentStart then
    let tokens := tokens.drop
    let next ← tokens.peek
    valueUnless [.documentStart, .documentEnd, .streamEnd] false false next.start [] tokens
  else valueStep false false [] tokens

/-- Whether anything but the end follows marks that documents end. -/
def moreFollows (tokens : Tokens) : Bool :=
  let isEnd (token : Token) : Bool := token.kind = .documentEnd
  match { tokens with list := tokens.list.dropWhile isEnd }.peek with
  | .ok token => token.kind ≠ .streamEnd
  | .error _ => true

/-- The first document of a text. One without tokens has no events. -/
def Document.ofString (text : String) : Document :=
  let (list, fault) := tokensOf text
  let tokens : Tokens := { list, fault }
  if list.head?.any (·.kind = .streamEnd) then { events := [], fault := none, goesOn := false }
  else
    match firstStep tokens with
    | .error fault => { events := [], fault := some fault, goesOn := false }
    | .ok step =>
      match eventsFrom (4 * list.length + 4) step with
      | (events, .error fault) => { events, fault := some fault, goesOn := false }
      | (events, .ok tokens) =>
        match tokens.peek with
        | .error fault => { events, fault := some fault, goesOn := false }
        | .ok _ => { events, fault := none, goesOn := moreFollows tokens }

end ConsumerContract.Yaml
