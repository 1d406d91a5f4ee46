/-
This file holds the checks of an example against its own declarations. A pattern
has to be readable, and the example has to be a leaf whose text it matches. The
pattern of a mock server URL is checked against the URL it came with.
-/

import ConsumerContract.Encoding.Failure
import ConsumerContract.Node.Basic
import ConsumerContract.Pattern.Basic

namespace ConsumerContract

/-- Whether a node is a leaf whose text matches a pattern. -/
def Node.fits (sample : Node) (pattern : Pattern) : Bool :=
  match sample with
  | .scalar value => pattern.matchesIn value.text
  | _ => false

/-- Reads the pattern of a declaration. -/
def readPattern (text : String) (path : Path) : Except EncodingFailure Pattern :=
  match Pattern.compile text with
  | .ok pattern => .ok pattern
  | .error refusal => .error ⟨.invalidPattern text (refusal.report text), text, path⟩

/-- The example has to be a leaf that matches. -/
def checkExample (pattern : Pattern) (sample : Node) (path : Path) : Except EncodingFailure Unit :=
  if sample.fits pattern then .ok ()
  else .error ⟨.patternMismatch pattern.text, sample.describe, path⟩

/-- A rule has to describe its own example. -/
def Rule.check (rule : Rule) (sample : Node) (path : Path) : Except EncodingFailure Unit :=
  match rule with
  | .regex text =>
    match readPattern text path with
    | .ok pattern => checkExample pattern sample path
    | .error failure => .error failure
  | _ => .ok ()

/-- Every rule has to describe the example they share. -/
def Rule.checkAll (sample : Node) (path : Path) : List Rule → Except EncodingFailure Unit
  | [] => .ok ()
  | rule :: rest =>
    match rule.check sample path with
    | .ok () => checkAll sample path rest
    | .error failure => .error failure

/-- A generator has to be able to reproduce its example. -/
def Generator.check (generator : Generator) (sample : Node) (path : Path) :
    Except EncodingFailure Unit :=
  match generator with
  | .regex text =>
    match readPattern text path with
    | .ok pattern => checkExample pattern sample path
    | .error failure => .error failure
  | .mockServerUrl url text =>
    match readPattern text path with
    | .ok pattern =>
      if pattern.groupCount = 1 then checkExample pattern (.string url) path
      else
        let problem :=
          "expected exactly one capture group, found " ++ decimalText pattern.groupCount
        .error ⟨.invalidPattern text problem, text, path⟩
    | .error failure => .error failure
  | _ => .ok ()

end ConsumerContract
