/-
This file gives compiled declarations the shape they have in a contract. A
request path has one address only, so its declaration stands there by itself;
the declarations of other elements are keyed by path.
-/

import ConsumerContract.Encoding.Compiled

namespace ConsumerContract

universe u

/-- The declarations of one sort for an element. -/
inductive Declarations (α : Type u) where
  /-- The only declaration of an element without inner paths. -/
  | bare (declaration : α)
  | byPath (entries : Keyed α)
  deriving Inhabited

namespace Declarations

variable {α : Type u}

/-- The shape of compiled declarations, if there are any. Outside bodies a single
declaration for the whole element stands by itself. -/
def ofEntries? (element : Element) : Keyed α → Option (Declarations α)
  | [] => none
  | [(path, declaration)] =>
    if element ≠ .body ∧ path = "" then some (bare declaration)
    else some (byPath [(path, declaration)])
  | entries => some (byPath entries)

/-- How many declarations there are. -/
def size : Declarations α → Nat
  | bare _ => 1
  | byPath entries => entries.length

/-- The JSON form, given that of one declaration. -/
def toJson (write : α → Json) : Declarations α → Json
  | bare declaration => write declaration
  | byPath entries => .object (entries.map fun (path, declaration) => (path, write declaration))

end Declarations

/-- An element that is ready to be placed in a contract. -/
structure EncodedElement where
  element : Element
  value : Json
  rules : Option (Declarations RuleSet)
  generators : Option (Declarations Generator)
  deriving Inhabited

/-- Encodes a tree as one element of an interaction. -/
def Node.encode (node : Node) (element : Element) (maxDepth : Nat) :
    Except EncodingFailure EncodedElement := do
  let compiled ← node.compile element element.root false maxDepth
  return {
    element
    value := compiled.value
    rules := Declarations.ofEntries? element compiled.rules
    generators := Declarations.ofEntries? element compiled.generators }

end ConsumerContract
