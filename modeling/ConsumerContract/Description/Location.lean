/-
This file holds the texts for locations inside a description, such as
`interactions[0].request.body.users[*].id`. The part behind an element is the
path of the compiled value, so a failure of encoding is shown where the value
was written.
-/

import ConsumerContract.Element

namespace ConsumerContract.Location

/-- The interaction at a position. -/
def interaction (position : Nat) : String :=
  "interactions[" ++ decimalText position ++ "]"

/-- A field of the object at a location. -/
def field (location name : String) : String :=
  location ++ "." ++ name

/-- The field of a message that an element is written in. -/
def elementField : Element → String
  | .body => "body"
  | .query => "query"
  | .header => "headers"
  | .path => "path"

/-- A path behind the field of its element. The root of a body is left out. -/
def pathSuffix (element : Element) (path : Path) : String :=
  match element, path.text.toList with
  | .body, '$' :: rest => String.ofList rest
  | .body, _ => path.text
  | _, [] => ""
  | _, _ => "." ++ path.text

/-- A path of an element of a message; without an element it is the message itself. -/
def encoded (message : String) (element : Option Element) (path : Path) : String :=
  match element with
  | none => message
  | some element => field message (elementField element) ++ pathSuffix element path

end ConsumerContract.Location
