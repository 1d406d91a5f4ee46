/-
This file compiles trees. The compiled form of a tree is its JSON value, with
every wrapper reduced to its example, together with the rules and generators
that the wrappers declare, keyed by path.

Parts of a collection are compiled one after the other and their declarations
are joined. Distinct parts have distinct paths, so a common path is an error;
only elements that share the path of their sequence may declare it again, and
then the last one is kept. A rule that a wrapper declares takes the place of
what lies below it at the same path, while a second generator there is an error.
-/

import ConsumerContract.Element
import ConsumerContract.Encoding.Example

namespace ConsumerContract

/-- Declarations keyed by path. -/
structure Declared where
  rules : Keyed RuleSet
  generators : Keyed Generator
  deriving Inhabited

/-- A compiled tree: its value and what it declares. -/
structure Compiled extends Declared where
  value : Json
  deriving Inhabited

namespace Declared

/-- Nothing declared. -/
def empty : Declared := ⟨[], []⟩

/-- The failure for a path that was declared twice. -/
def collision (part : Node) (path : String) : EncodingFailure :=
  ⟨.pathCollision, part.describe, ⟨path⟩⟩

/-- Adds the declarations of one more part. Rules are joined before generators. -/
def join (shared : Bool) (declared : Declared) (part : Node) (added : Declared) :
    Except EncodingFailure Declared :=
  if shared then
    .ok ⟨declared.rules.overlay added.rules, declared.generators.overlay added.generators⟩
  else
    match declared.rules.merge added.rules with
    | .error path => .error (collision part path)
    | .ok rules =>
      match declared.generators.merge added.generators with
      | .error path => .error (collision part path)
      | .ok generators => .ok ⟨rules, generators⟩

end Declared

namespace Compiled

/-- A value that declares nothing. -/
def plain (value : Json) : Compiled :=
  ⟨.empty, value⟩

/-- The same declarations for an array with this one value. -/
def asOnlyItem (compiled : Compiled) : Compiled :=
  { compiled with value := .array [compiled.value] }

/-- Records the rules of a wrapper around a compiled example. -/
def withRules (compiled : Compiled) (path : Path) (rules : RuleSet) : Compiled :=
  { compiled with rules := compiled.rules.insert path.text rules }

/-- Records the generator of a wrapper, for which there must be none at the same path. -/
def withGenerator (compiled : Compiled) (path : Path) (generator : Generator) (sample : Node) :
    Except EncodingFailure Compiled :=
  match compiled.generators.merge [(path.text, generator)] with
  | .error path => .error (Declared.collision sample path)
  | .ok generators => .ok { compiled with generators }

end Compiled

/-- The JSON value of a leaf. -/
def Scalar.toJson (path : Path) : Scalar → Except EncodingFailure Json
  | null => .ok .null
  | bool value => .ok (.bool value)
  | integer value => .ok (.ofInt value.toInt)
  | float value =>
    match value.numeral? with
    | some numeral => .ok (.number numeral)
    | none => .error ⟨.notEncodable, value.text, path⟩
  | decimal value => .ok (.number value.numeral)
  | string value => .ok (.string value)

namespace Node

/-- A matcher must not be the direct example of another matcher. -/
def rejectMatcher (sample : Node) (path : Path) : Except EncodingFailure Unit :=
  if sample.isMatcher then .error ⟨.nestedMatcher, sample.describe, path⟩ else .ok ()

/-- The step to any element of a repeated collection; other nodes can not be repeated. -/
def anyPart? : Node → Option Step
  | sequence _ => some .anyItem
  | mapping _ => some .anyMember
  | _ => none

/-- The rules at the path of a repetition, which hold for every element. -/
def repetitionRules (min max : Option UInt64) : RuleSet :=
  ⟨[.type min max], some .all⟩

mutual

/-- Compiles a tree that lies at a path, `depth` levels below the tree that was given.
The flag says that the node is a repeated collection, whose elements share one path. -/
def compileAt (limit : Nat) (element : Element) (path : Path) (repeated : Bool) (depth : Nat)
    (node : Node) : Except EncodingFailure Compiled :=
  if limit < depth then .error ⟨.depthExceeded limit, node.describe, path⟩
  else
    match node with
    | scalar value => do
      let value ← value.toJson path
      return .plain value
    | sequence items => do
      let shared := repeated || element.sharesItems
      let (declared, values) ← compileItems limit element path shared depth 0 .empty items
      return ⟨declared, .array values⟩
    | mapping members => do
      let (declared, values) ← compileMembers limit element path depth .empty members
      return ⟨declared, .object values⟩
    | matcher rules combine sample => do
      sample.rejectMatcher path
      Rule.checkAll sample path rules
      let compiled ← compileAt limit element path false (depth + 1) sample
      return compiled.withRules path ⟨rules, combine⟩
    | repetition collection min max =>
      match collection.anyPart? with
      | none =>
        let problem := "a repetition must wrap a sequence or a mapping"
        .error ⟨.invalidParameter problem, collection.describe, path⟩
      | some step => do
        let compiled ← compileAt limit element (path.child step) true (depth + 1) collection
        let single := if step = .anyMember then compiled.asOnlyItem else compiled
        return single.withRules path (repetitionRules min max)
    | arrayContains variants => do
      let (declared, values) ← compileVariants limit path depth 0 variants
      let compiled := Compiled.plain (.array values)
      return compiled.withRules path ⟨[.arrayContains declared], none⟩
    | generator declaration sample => do
      declaration.check sample path
      let compiled ← compileAt limit element path false (depth + 1) sample
      compiled.withGenerator path declaration sample
    | composite rule declaration sample => do
      sample.rejectMatcher path
      rule.check sample path
      declaration.check sample path
      let compiled ← compileAt limit element path false (depth + 1) sample
      let ruled :=
        if element = .path then compiled else compiled.withRules path ⟨[rule], none⟩
      ruled.withGenerator path declaration sample
    | invalid description none => .error ⟨.notEncodable, description, path⟩
    | invalid description (some problem) =>
      .error ⟨.invalidParameter problem, description, path⟩

/-- Compiles the elements of a sequence from `position` on and adds what they declare. -/
def compileItems (limit : Nat) (element : Element) (path : Path) (shared : Bool) (depth : Nat)
    (position : Nat) (declared : Declared) :
    List Node → Except EncodingFailure (Declared × List Json)
  | [] => .ok (declared, [])
  | item :: rest => do
    let compiled ←
      compileAt limit element (path.item shared position) false (depth + 1) item
    let joined ← declared.join shared item compiled.toDeclared
    let (all, values) ←
      compileItems limit element path shared depth (position + 1) joined rest
    return (all, compiled.value :: values)

/-- Compiles the members of a mapping and adds what they declare. -/
def compileMembers (limit : Nat) (element : Element) (path : Path) (depth : Nat)
    (declared : Declared) :
    List (String × Node) → Except EncodingFailure (Declared × List (String × Json))
  | [] => .ok (declared, [])
  | (key, member) :: rest => do
    let compiled ← compileAt limit element (path.child (.key key)) false (depth + 1) member
    let joined ← declared.join false member compiled.toDeclared
    let (all, values) ← compileMembers limit element path depth joined rest
    return (all, (key, compiled.value) :: values)

/-- Compiles the variants of an array-contains matcher from `position` on. Each is a body
of its own; the path of a failure inside it is given from the array. -/
def compileVariants (limit : Nat) (path : Path) (depth : Nat) (position : Nat) :
    List Node → Except EncodingFailure (List Variant × List Json)
  | [] => .ok ([], [])
  | variant :: rest =>
    match compileAt limit .body .body false (depth + 1) variant with
    | .error failure =>
      .error { failure with path := failure.path.below (path.child (.index position)) }
    | .ok compiled => do
      let (variants, values) ← compileVariants limit path depth (position + 1) rest
      return (⟨position, compiled.rules, compiled.generators⟩ :: variants, compiled.value :: values)

end

/-- How deep a tree may be if nothing else is asked for. -/
def defaultMaxDepth : Nat := 128

/-- Compiles a tree for an element, as the part that lies at a path. -/
def compile (node : Node) (element : Element) (path : Path) (repeated : Bool) (maxDepth : Nat) :
    Except EncodingFailure Compiled :=
  node.compileAt maxDepth element path repeated 0

end Node

end ConsumerContract
