/-
This file holds the structural paths that rules and generators are keyed by. A
path is kept as its rendered text, because that text is the key in a contract.
Bodies are addressed from the root `$`; the other elements start from the empty
path, under which a key stands for itself.
-/

import ConsumerContract.Number.Digits

namespace ConsumerContract

/-- One step down from a value to a part of it. -/
inductive Step where
  /-- A member of a mapping. -/
  | key (name : String)
  /-- An element of a sequence. -/
  | index (position : Nat)
  /-- Any element of a repeated sequence. -/
  | anyItem
  /-- Any member of any element, where a mapping is repeated. -/
  | anyMember
  deriving DecidableEq, Repr

/-- An address inside a compiled value. -/
structure Path where
  text : String
  deriving DecidableEq, Repr, Inhabited

namespace Path

/-- The root of a body. -/
def body : Path := ⟨"$"⟩

/-- The root of a request path, a header map and a query. -/
def empty : Path := ⟨""⟩

def isEmpty (path : Path) : Bool :=
  path.text.isEmpty

/-- The characters of a key that needs no quotes. -/
def isPlainChar (char : Char) : Bool :=
  char.isAlphanum || char = '_' || char = '-'

/-- Whether a key can follow a point without quotes. -/
def isPlainKey (key : String) : Bool :=
  !key.isEmpty && key.toList.all isPlainChar

/-- A key between quotes; a quote inside it gets a backslash. -/
def quotedKey (key : String) : String :=
  String.ofList (key.toList.flatMap fun char => if char = '\'' then ['\\', '\''] else [char])

/-- The path one step further down. -/
def child (path : Path) : Step → Path
  | .key name =>
    if path.isEmpty then ⟨name⟩
    else if isPlainKey name then ⟨path.text ++ "." ++ name⟩
    else ⟨path.text ++ "['" ++ quotedKey name ++ "']"⟩
  | .index position => ⟨path.text ++ "[" ++ decimalText position ++ "]"⟩
  | .anyItem => ⟨path.text ++ "[*]"⟩
  | .anyMember => ⟨path.text ++ "[*].*"⟩

/-- The path of an element. Where elements share one address, it is that of the
whole sequence. -/
def item (path : Path) (shared : Bool) (position : Nat) : Path :=
  if shared then path else path.child (.index position)

/-- A path below the root `$`, seen from a place where that root lies. -/
def below (path base : Path) : Path :=
  match path.text.toList with
  | '$' :: rest => ⟨base.text ++ String.ofList rest⟩
  | _ => base

/-- The path that a list of steps leads to. -/
def ofSteps (root : Path) (steps : List Step) : Path :=
  steps.foldl child root

/-- How often `[*]` occurs in a text. -/
def countWildcards : List Char → Nat
  | '[' :: '*' :: ']' :: rest => countWildcards rest + 1
  | _ :: rest => countWildcards rest
  | [] => 0

/-- How many wildcards the path shows. -/
def wildcardCount (path : Path) : Nat :=
  countWildcards path.text.toList

end Path

end ConsumerContract
