/-
This file holds nodes, the trees that the elements of an interaction are
authored as. A node is plain data, a wrapper that declares a rule or a generator
around an example, or a mark for something that can not be encoded. Such a mark
stays in the tree, so that it is reported with its path when the tree is
compiled.
-/

import ConsumerContract.Calendar.Moment
import ConsumerContract.Number.Decimal
import ConsumerContract.Number.Layout
import ConsumerContract.Rule

namespace ConsumerContract

/-- A leaf value. -/
inductive Scalar where
  | null
  | bool (value : Bool)
  | integer (value : Int64)
  | float (value : Double)
  | decimal (value : Decimal)
  | string (value : String)
  deriving DecidableEq, Inhabited

/-- The text of a leaf that patterns are checked against. -/
def Scalar.text : Scalar → String
  | null => "null"
  | bool value => if value then "true" else "false"
  | integer value => signedText value.toInt
  | float value => value.text
  | decimal value => value.text
  | string value => value

/-- A node of an authored tree. Members of a mapping are in key order. -/
inductive Node where
  | scalar (value : Scalar)
  | sequence (items : List Node)
  | mapping (members : List (String × Node))
  /-- Rules around a sample. -/
  | matcher (rules : List Rule) (combine : Option Combination) (sample : Node)
  /-- Every element of a collection is matched by type. -/
  | repetition (collection : Node) (min max : Option UInt64)
  /-- An array with at least one element for each variant. -/
  | arrayContains (variants : List Node)
  /-- A generator around a sample. -/
  | generator (declaration : Generator) (sample : Node)
  /-- A rule and a generator around one sample. -/
  | composite (rule : Rule) (declaration : Generator) (sample : Node)
  /-- Something that can not be encoded, with a problem if a declaration is unusable. -/
  | invalid (description : String) (problem : Option String)
  deriving Inhabited

namespace Node

/-! ### Plain data -/

def null : Node := .scalar .null

def bool (value : Bool) : Node := .scalar (.bool value)

def integer (value : Int64) : Node := .scalar (.integer value)

def decimal (value : Decimal) : Node := .scalar (.decimal value)

def string (value : String) : Node := .scalar (.string value)

/-- A whole number; one beyond the signed 64-bit words is kept as a decimal. -/
def ofInt (number : Int) : Node :=
  if Int64.minValue.toInt ≤ number ∧ number ≤ Int64.maxValue.toInt then
    integer (Int64.ofInt number)
  else decimal (Decimal.ofInt number)

/-- A floating-point number, which has to be finite. -/
def ofDouble (number : Double) : Node :=
  if number.isFinite then .scalar (.float number) else .invalid number.text none

/-- A mapping from members in any order; of two members with one key the later is kept. -/
def ofMembers (members : List (String × Node)) : Node :=
  .mapping (Keyed.ofList members)

/-- A value that can not be encoded. -/
def notEncodable (description : String) : Node :=
  .invalid description none

/-- A declaration whose parameters describe no rule or generator. -/
def invalidParameter (description problem : String) : Node :=
  .invalid description (some problem)

/-- The leaf of a numeral: an integer if it is written as one that fits, a
floating-point number if that has the same text, otherwise an exact decimal. -/
def ofNumeral (numeral : Numeral) : Node :=
  match numeral.toInt64? with
  | some number => integer number
  | none =>
    let exact :=
      match Decimal.ofNumeral? numeral with
      | some number => decimal number
      | none => notEncodable numeral.text
    if numeral.isWhole then exact
    else
      match Binary.ofNumeral? .double numeral with
      | some number => if number.text = numeral.text then .scalar (.float number) else exact
      | none => exact

mutual

/-- Plain JSON as a node: objects are data, whatever their members are called. -/
def ofJson : Json → Node
  | .null => null
  | .bool value => bool value
  | .number numeral => ofNumeral numeral
  | .string text => string text
  | .array items => .sequence (ofJsonItems items)
  | .object members => ofMembers (ofJsonMembers members)

/-- Each item as a node. -/
def ofJsonItems : List Json → List Node
  | [] => []
  | item :: rest => ofJson item :: ofJsonItems rest

/-- Each member as a node. -/
def ofJsonMembers : List (String × Json) → List (String × Node)
  | [] => []
  | (key, value) :: rest => (key, ofJson value) :: ofJsonMembers rest

end

/-! ### Dates and times

They have no JSON form of their own; a matcher or a generator has to name one. -/

/-- A moment with an offset, which can not be encoded. -/
def ofOffsetMoment (moment : OffsetMoment) : Node :=
  notEncodable moment.text

/-- A moment, which can not be encoded. -/
def ofMoment (moment : Moment) : Node :=
  notEncodable moment.text

/-- A date, which can not be encoded. -/
def ofDate (date : Moment) : Node :=
  notEncodable date.dateText

/-! ### Kinds -/

/-- The name of a node's kind. -/
def label : Node → String
  | scalar _ => "scalar"
  | sequence _ => "sequence"
  | mapping _ => "mapping"
  | matcher .. => "matcher"
  | repetition .. => "repetition matcher"
  | arrayContains _ => "array-contains matcher"
  | generator .. => "generator"
  | composite .. => "matcher with generator"
  | invalid .. => "invalid"

/-- Whether the node declares rules of its own. -/
def isMatcher : Node → Bool
  | matcher .. | repetition .. | arrayContains _ | composite .. => true
  | _ => false

/-- The leaf that a node carries as its example, below wrappers alone. -/
def sampleScalar? : Node → Option Scalar
  | scalar value => some value
  | matcher _ _ sample => sample.sampleScalar?
  | generator _ sample => sample.sampleScalar?
  | composite _ _ sample => sample.sampleScalar?
  | _ => none

/-! ### Short descriptions -/

/-- How many levels of a tree a description shows. -/
def describedLevels : Nat := 4

/-- How many members of one collection a description shows. -/
def describedMembers : Nat := 8

mutual

/-- A node in short, down to `levels` levels. What lies deeper, and what follows
the first members of a collection, is shown as dots. -/
def describeWithin (levels : Nat) : Node → String
  | scalar (.string text) => "\"" ++ text ++ "\""
  | scalar value => value.text
  | invalid description _ => description
  | sequence items =>
    match levels with
    | 0 => "[...]"
    | levels + 1 => "[" ++ ", ".intercalate (describeItems levels describedMembers items) ++ "]"
  | mapping members =>
    match levels with
    | 0 => "\x7b...\x7d"
    | levels + 1 =>
      "\x7b" ++ ", ".intercalate (describeMembers levels describedMembers members) ++ "\x7d"
  | matcher rules _ sample =>
    "+".intercalate (rules.map Rule.kind) ++ "(" ++ describeInner levels sample ++ ")"
  | repetition collection _ _ => "eachLike(" ++ describeInner levels collection ++ ")"
  | arrayContains variants => "arrayContains(" ++ decimalText variants.length ++ " variants)"
  | generator declaration sample =>
    declaration.kind ++ "(" ++ describeInner levels sample ++ ")"
  | composite rule declaration sample =>
    rule.kind ++ "+" ++ declaration.kind ++ "(" ++ describeInner levels sample ++ ")"

/-- The node inside a wrapper, one level deeper. -/
def describeInner : Nat → Node → String
  | 0, _ => "..."
  | levels + 1, sample => describeWithin levels sample

/-- The first items in short. -/
def describeItems (levels : Nat) : Nat → List Node → List String
  | _, [] => []
  | 0, _ :: _ => ["..."]
  | shown + 1, item :: rest => describeWithin levels item :: describeItems levels shown rest

/-- The first members in short. -/
def describeMembers (levels : Nat) : Nat → List (String × Node) → List String
  | _, [] => []
  | 0, _ :: _ => ["..."]
  | shown + 1, (key, value) :: rest =>
    ("\"" ++ key ++ "\": " ++ describeWithin levels value) :: describeMembers levels shown rest

end

/-- A node in short, as messages show it. -/
def describe (node : Node) : String :=
  node.describeWithin describedLevels

end Node

end ConsumerContract
