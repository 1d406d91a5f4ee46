/-
This file holds matching rules, the sets of rules recorded at one path, and
their form in a contract. A rule is an object whose `match` names its kind. An
array-contains rule carries whole maps of rules and generators, one pair for
each variant, so rules, rule sets and variants are defined together.
-/

import ConsumerContract.Generator

namespace ConsumerContract

/-- The status classes that the `statusCode` rule knows. -/
inductive StatusClass where
  | information
  | success
  | redirect
  | clientError
  | serverError
  | nonError
  | error
  deriving DecidableEq, Repr, Inhabited

/-- The statuses that a rule allows. -/
inductive StatusRange where
  | statusClass (name : StatusClass)
  | codes (codes : List UInt16)
  deriving DecidableEq, Repr, Inhabited

/-- How several rules at one path combine. -/
inductive Combination where
  | all
  | any
  deriving DecidableEq, Repr, Inhabited

mutual

/-- One matching rule. -/
inductive Rule where
  | equality
  | type (min max : Option UInt64)
  | integer
  | decimal
  | number
  | regex (pattern : String)
  | includes (value : String)
  | null
  | boolean
  | notEmpty
  | semver
  | timestamp (format : String)
  | date (format : String)
  | time (format : String)
  | statusCode (status : StatusRange)
  | arrayContains (variants : List Variant)

/-- One alternative of an array-contains rule, with declarations rooted at `$`. -/
structure Variant where
  index : Nat
  rules : List (String × RuleSet)
  generators : List (String × Generator)

/-- The rules recorded at one path. -/
structure RuleSet where
  matchers : List Rule
  combine : Option Combination

end

instance : Inhabited Rule := ⟨.equality⟩
instance : Inhabited RuleSet := ⟨⟨[], none⟩⟩
instance : Inhabited Variant := ⟨⟨0, [], []⟩⟩

namespace StatusClass

/-- The name of a class in a contract. -/
def name : StatusClass → String
  | information => "information"
  | success => "success"
  | redirect => "redirect"
  | clientError => "clientError"
  | serverError => "serverError"
  | nonError => "nonError"
  | error => "error"

/-- The class with a name. -/
def ofName? (text : String) : Option StatusClass :=
  [information, success, redirect, clientError, serverError, nonError, error].find?
    (·.name = text)

/-- A status in the class, used as the example value. -/
def sampleCode : StatusClass → UInt16
  | information => 100
  | success | nonError => 200
  | redirect => 300
  | clientError | error => 400
  | serverError => 500

end StatusClass

/-- A class by its name, codes as a list. -/
def StatusRange.toJson : StatusRange → Json
  | statusClass name => .string name.name
  | codes list => .array (list.map fun code => .ofNat code.toNat)

/-- The name of a combination in a contract. -/
def Combination.name : Combination → String
  | all => "AND"
  | any => "OR"

namespace Rule

/-- The plain rule "same type as the example". -/
def sameType : Rule := .type none none

/-- The `match` of the rule. -/
def kind : Rule → String
  | equality => "equality"
  | type .. => "type"
  | integer => "integer"
  | decimal => "decimal"
  | number => "number"
  | regex .. => "regex"
  | includes .. => "include"
  | null => "null"
  | boolean => "boolean"
  | notEmpty => "notEmpty"
  | semver => "semver"
  | timestamp .. => "timestamp"
  | date .. => "date"
  | time .. => "time"
  | statusCode .. => "statusCode"
  | arrayContains .. => "arrayContains"

/-- The parameters of a rule that holds no other rules, in their written order. -/
def scalarParameters : Rule → List (String × Json)
  | type min max =>
    Json.optionalMember "min" (min.map fun bound => .ofNat bound.toNat) ++
      Json.optionalMember "max" (max.map fun bound => .ofNat bound.toNat)
  | regex pattern => [("regex", .string pattern)]
  | includes value => [("value", .string value)]
  | timestamp format | date format | time format => [("format", .string format)]
  | statusCode status => [("status", status.toJson)]
  | _ => []

end Rule

mutual

/-- The rule as it appears in a contract. -/
def Rule.toJson : Rule → Json
  | .arrayContains variants =>
    .object [("match", .string "arrayContains"), ("variants", .array (Rule.variantsJson variants))]
  | rule => .object (("match", .string rule.kind) :: rule.scalarParameters)

/-- Each variant as it appears in a contract. -/
def Rule.variantsJson : List Variant → List Json
  | [] => []
  | variant :: rest => variant.toJson :: Rule.variantsJson rest

/-- The variant as it appears in a contract. -/
def Variant.toJson : Variant → Json
  | ⟨index, rules, generators⟩ =>
    .object [("index", .ofNat index), ("rules", .object (Rule.ruleSetsJson rules)),
      ("generators", .object (generators.map fun (path, generator) => (path, generator.toJson)))]

/-- Each rule set under its path. -/
def Rule.ruleSetsJson : List (String × RuleSet) → List (String × Json)
  | [] => []
  | (path, ruleSet) :: rest => (path, ruleSet.toJson) :: Rule.ruleSetsJson rest

/-- The rule set as it appears in a contract. -/
def RuleSet.toJson : RuleSet → Json
  | ⟨matchers, combine⟩ =>
    .object (("matchers", .array (Rule.rulesJson matchers)) ::
      Json.optionalMember "combine" (combine.map fun combination => .string combination.name))

/-- Each rule of a set. -/
def Rule.rulesJson : List Rule → List Json
  | [] => []
  | rule :: rest => rule.toJson :: Rule.rulesJson rest

end

end ConsumerContract
