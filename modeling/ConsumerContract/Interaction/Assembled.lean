/-
This file holds what a message collects of its encoded elements: the value of each, and
its rules and generators if it has any. The fields of a compiled message are taken from
these maps, so an element without declarations leaves no trace in them.
-/

import ConsumerContract.Encoding.Declarations

namespace ConsumerContract

/-- All elements, in their order as keys. -/
def Element.all : List Element :=
  [.body, .query, .header, .path]

/-- A map whose keys are elements. -/
structure ElementMap (α : Type) where
  body : Option α := none
  query : Option α := none
  header : Option α := none
  path : Option α := none
  deriving Inhabited

namespace ElementMap

variable {α : Type}

/-- The value for an element, if there is one. -/
def find? (map : ElementMap α) : Element → Option α
  | .body => map.body
  | .query => map.query
  | .header => map.header
  | .path => map.path

/-- Adds a value for an element, in place of one that is there. -/
def insert (map : ElementMap α) (element : Element) (value : α) : ElementMap α :=
  match element with
  | .body => { map with body := some value }
  | .query => { map with query := some value }
  | .header => { map with header := some value }
  | .path => { map with path := some value }

/-- Adds a value for an element, if there is one to add. -/
def insert? (map : ElementMap α) (element : Element) : Option α → ElementMap α
  | none => map
  | some value => map.insert element value

/-- All elements that have a value, in their order, with their values. -/
def entries (map : ElementMap α) : List (Element × α) :=
  Element.all.filterMap fun element => (map.find? element).map (element, ·)

/-- The map, left out if it is empty. -/
def nonEmpty? (map : ElementMap α) : Option (ElementMap α) :=
  if map.entries.isEmpty then none else some map

/-- The JSON form, given that of a value. -/
def toJson (write : α → Json) (map : ElementMap α) : Json :=
  .object (map.entries.map fun (element, value) => (element.name, write value))

end ElementMap

/-- What has been collected of encoded elements. -/
structure Assembled where
  values : ElementMap Json := {}
  rules : ElementMap (Declarations RuleSet) := {}
  generators : ElementMap (Declarations Generator) := {}
  deriving Inhabited

namespace Assembled

/-- Collects one more element. -/
def add (assembled : Assembled) (encoded : EncodedElement) : Assembled where
  values := assembled.values.insert encoded.element encoded.value
  rules := assembled.rules.insert? encoded.element encoded.rules
  generators := assembled.generators.insert? encoded.element encoded.generators

/-- Collects elements one after the other. -/
def ofElements (encoded : List EncodedElement) : Assembled :=
  encoded.foldl add {}

end Assembled

end ConsumerContract
