/-
This file reads settings from YAML documents. A document is a mapping with some
of the known keys; keys that are not known are skipped. The events of a document
are taken in order, so the first key that is repeated or has a value of another
kind is reported, and a fault of the text only if nothing in front of it is wrong.
-/

import ConsumerContract.Yaml.Event

namespace ConsumerContract

/-- The settings that a document gives. -/
structure SettingsDocument where
  outputDirectory : Option String := none
  maxDepth : Option Nat := none
  logFilter : Option String := none
  deriving DecidableEq, Repr, Inhabited

/-- Why a text gives no settings. -/
inductive DocumentFault where
  | malformed (fault : Yaml.Fault)
  /-- A value of another kind, at a key or as the whole document. -/
  | unexpected (key : Option String) (found expected : String) (place : TextPlace)
  | repeatedKey (key : String) (place : TextPlace)
  | moreDocuments
  deriving DecidableEq, Repr, Inhabited

namespace DocumentFault

/-- A message with its place, which is left out at the start of a text. -/
def located (message : String) (place : TextPlace) : String :=
  if place = ⟨1, 1⟩ then message else message ++ " at " ++ place.text

/-- The wording of a fault. -/
def message : DocumentFault → String
  | malformed fault => fault.message
  | unexpected key found expected place =>
    located (key.elim "" (· ++ ": ") ++ "invalid type: " ++ found ++ ", expected " ++ expected)
      place
  | repeatedKey key place => located ("duplicate field `" ++ key ++ "`") place
  | moreDocuments =>
    "deserializing from YAML containing more than one document is not supported"

end DocumentFault

/-- The known keys. -/
inductive SettingsKey where
  | outputDirectory
  | maxDepth
  | logFilter
  deriving DecidableEq, Repr, Inhabited

namespace SettingsKey

/-- How a key is written. -/
def name : SettingsKey → String
  | outputDirectory => "outputDir"
  | maxDepth => "maxDepth"
  | logFilter => "logFilter"

/-- The key with a name. -/
def ofName? (text : String) : Option SettingsKey :=
  [outputDirectory, maxDepth, logFilter].find? (·.name = text)

/-- What the value of a key is called in messages. -/
def expected : SettingsKey → String
  | outputDirectory => "path string"
  | maxDepth => "usize"
  | logFilter => "a string"

end SettingsKey

namespace SettingsDocument

/-- Whether a key has a value. -/
def has (document : SettingsDocument) : SettingsKey → Bool
  | .outputDirectory => document.outputDirectory.isSome
  | .maxDepth => document.maxDepth.isSome
  | .logFilter => document.logFilter.isSome

/-- The document with the value of a key. Any scalar stands for its text, but a number has to
be plain, without a minus sign and no larger than a word. -/
def set? (document : SettingsDocument) (key : SettingsKey) (isPlain : Bool) (text : String) :
    Option SettingsDocument :=
  match key with
  | .outputDirectory => some { document with outputDirectory := some text }
  | .maxDepth =>
    (Yaml.scalarWord? isPlain text).map fun number => { document with maxDepth := some number }
  | .logFilter => some { document with logFilter := some text }

/-! ### Events -/

/-- What an event is, in messages. -/
def found : Yaml.EventKind → String
  | .scalar isPlain text => Yaml.scalarFound isPlain text
  | .sequenceStart | .sequenceEnd => "sequence"
  | .mappingStart | .mappingEnd => "map"

/-- Where in a mapping the next event is. -/
inductive Position where
  | atKey
  | atValue (key : SettingsKey)
  /-- Inside the value of an unknown key, so many collections deep. -/
  | skipping (depth : Nat)
  | behind
  deriving DecidableEq, Repr, Inhabited

/-- How deep the next event is inside a value that is skipped. -/
def depthAfter (depth : Nat) : Yaml.EventKind → Nat
  | .scalar .. => depth
  | .sequenceStart | .mappingStart => depth + 1
  | .sequenceEnd | .mappingEnd => depth - 1

/-- Takes an event of a mapping, which starts at `start`. -/
def take (start : TextPlace) (document : SettingsDocument) (event : Yaml.Event) :
    Position → Except DocumentFault (SettingsDocument × Position)
  | .atKey =>
    match event.kind with
    | .mappingEnd => .ok (document, .behind)
    | .scalar _ text =>
      match SettingsKey.ofName? text with
      | none => .ok (document, .skipping 0)
      | some key =>
        if document.has key then .error (.repeatedKey text start)
        else .ok (document, .atValue key)
    | kind => .error (.unexpected none (found kind) "field identifier" event.place)
  | .atValue key =>
    let unexpected : DocumentFault :=
      .unexpected (some key.name) (found event.kind) key.expected event.place
    match event.kind with
    | .scalar isPlain text =>
      match document.set? key isPlain text with
      | some document => .ok (document, .atKey)
      | none => .error unexpected
    | _ => .error unexpected
  | .skipping depth =>
    match depthAfter depth event.kind with
    | 0 => .ok (document, .atKey)
    | depth => .ok (document, .skipping depth)
  | .behind => .ok (document, .behind)

/-- Takes the events of a mapping, which starts at `start`. -/
def takeAll (start : TextPlace) (document : SettingsDocument) (position : Position) :
    List Yaml.Event → Except DocumentFault SettingsDocument
  | [] => .ok document
  | event :: rest => do
    let (document, position) ← take start document event position
    takeAll start document position rest

/-- The settings of some events. An empty document gives none. -/
def ofEvents : List Yaml.Event → Except DocumentFault SettingsDocument
  | [] => .ok {}
  | event :: rest =>
    match event.kind with
    | .mappingStart => takeAll event.place {} .atKey rest
    | .scalar true "" => .ok {}
    | kind => .error (.unexpected none (found kind) "struct PactConfig" event.place)

/-- The settings of a text, which must not hold more than one document. -/
def ofText (text : String) : Except DocumentFault SettingsDocument := do
  let source := Yaml.Document.ofString text
  let document ← ofEvents source.events
  match source.fault with
  | some fault => throw (.malformed fault)
  | none => if source.goesOn then throw .moreDocuments else return document

end SettingsDocument

end ConsumerContract
