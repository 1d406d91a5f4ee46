/-
This file holds the elements of an interaction that a tree can be compiled for.
Only bodies are addressed from a root of their own; in the other elements the
name of a header or of a query parameter stands for itself.
-/

import ConsumerContract.Path

namespace ConsumerContract

/-- A part of a request or of a response. -/
inductive Element where
  | body
  | query
  | header
  | path
  deriving DecidableEq, Repr, Inhabited

namespace Element

/-- The path of a whole element. -/
def root : Element → Path
  | body => .body
  | query | header | path => .empty

/-- Whether the elements of a sequence share the path of the sequence. A list of values
outside a body is addressed as a whole. -/
def sharesItems (element : Element) : Bool :=
  element ≠ body

/-- The key of the element among the rules and generators of a contract. -/
def name : Element → String
  | body => "body"
  | query => "query"
  | header => "header"
  | path => "path"

end Element

end ConsumerContract
