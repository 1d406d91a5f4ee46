/-
This file holds the methods of HTTP requests.
-/

namespace ConsumerContract

/-- A request method. -/
inductive HttpMethod where
  | get
  | head
  | post
  | put
  | patch
  | delete
  | trace
  | connect
  | options
  deriving DecidableEq, Repr, Inhabited

namespace HttpMethod

/-- The name of a method in a contract. -/
def name : HttpMethod → String
  | get => "GET"
  | head => "HEAD"
  | post => "POST"
  | put => "PUT"
  | patch => "PATCH"
  | delete => "DELETE"
  | trace => "TRACE"
  | connect => "CONNECT"
  | options => "OPTIONS"

/-- All methods. -/
def all : List HttpMethod :=
  [get, head, post, put, patch, delete, trace, connect, options]

/-- The method with exactly this name. -/
def ofName? (name : String) : Option HttpMethod :=
  all.find? (·.name = name)

/-- A text with its ASCII letters as capitals. -/
def capitals (text : String) : String :=
  String.ofList (text.toList.map Char.toUpper)

/-- The method with this name in any case. -/
def ofText? (text : String) : Option HttpMethod :=
  ofName? (capitals text)

/-- The wording for a text that names no method. -/
def unknownMessage (text : String) : String :=
  "unknown HTTP method '" ++ capitals text ++ "'"

/-- The names of all methods, as suggestions list them. -/
def allNames : String :=
  ", ".intercalate (all.map name)

end HttpMethod

end ConsumerContract
