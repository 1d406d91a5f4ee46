/-
This file holds the failures of encoding. A failure says why a tree has no
compiled form, and it names the offending value and the path that was reached.
-/

import ConsumerContract.Path

namespace ConsumerContract

/-- Why a tree can not be encoded. -/
inductive FailureReason where
  /-- A value has no JSON form. -/
  | notEncodable
  /-- An example does not match its own pattern. -/
  | patternMismatch (pattern : String)
  /-- A pattern can not be read, or does not have the groups it needs. -/
  | invalidPattern (pattern problem : String)
  /-- A matcher is the direct example of another one. -/
  | nestedMatcher
  /-- Two declarations of one sort have the same path. -/
  | pathCollision
  /-- The tree is deeper than the limit. -/
  | depthExceeded (limit : Nat)
  /-- A declaration has unusable parameters. -/
  | invalidParameter (problem : String)
  deriving DecidableEq, Repr, Inhabited

/-- The wording of a reason. -/
def FailureReason.message : FailureReason → String
  | notEncodable =>
    "value is not JSON safe (String, Int, Double, Decimal, Bool, Array, Dictionary, " ++
      "Matcher or Generator)"
  | patternMismatch pattern => "example does not match the pattern \"" ++ pattern ++ "\""
  | invalidPattern pattern problem => "invalid pattern \"" ++ pattern ++ "\": " ++ problem
  | nestedMatcher => "matchers can not wrap other matchers directly"
  | pathCollision => "more than one value resolved to the same path"
  | depthExceeded limit => "structure is nested deeper than " ++ decimalText limit ++ " levels"
  | invalidParameter problem => problem

/-- A tree that can not be encoded, with the offending value in short. -/
structure EncodingFailure where
  reason : FailureReason
  value : String
  path : Path
  deriving DecidableEq, Repr, Inhabited

/-- The wording of a failure. -/
def EncodingFailure.message (failure : EncodingFailure) : String :=
  "Error preparing pact! " ++ failure.reason.message ++ ": '" ++ failure.value ++ "' at '" ++
    failure.path.text ++ "'"

end ConsumerContract
