/-
This file holds the verification of contracts. A mock server is asked to serve a
contract over a protocol, and answers with the differences it has seen between
the requests that were expected and those that came.
-/

import ConsumerContract.Pact.Basic

namespace ConsumerContract

/-- The protocols a mock server listens on. -/
inductive Protocol where
  | http
  | https
  deriving DecidableEq, Repr, Inhabited

/-- The name of a protocol. -/
def Protocol.name : Protocol → String
  | http => "http"
  | https => "https"

/-- A difference between an expected and an actual request. -/
structure Mismatch where
  kind : String
  path : Option String := none
  expected : Option String := none
  actual : Option String := none
  deriving DecidableEq, Repr, Inhabited

/-- What a failed verification has seen. -/
structure VerificationFailure where
  mismatches : List Mismatch
  deriving DecidableEq, Repr, Inhabited

/-- A server that says what of a contract was not met. -/
abbrev MockServer := Document → Protocol → Except VerificationFailure Unit

namespace Mismatch

/-- The wording of a difference. -/
def message (mismatch : Mismatch) : String :=
  mismatch.kind ++ (mismatch.path.elim "" (" at " ++ ·)) ++
    match mismatch.expected, mismatch.actual with
    | some expected, some actual => ": expected " ++ expected ++ ", got " ++ actual
    | some expected, none => ": expected " ++ expected
    | none, some actual => ": got " ++ actual
    | none, none => ""

/-- The difference as JSON. -/
def toJson (mismatch : Mismatch) : Json :=
  .object <|
    ("type", .string mismatch.kind) ::
      Json.optionalMember "path" (mismatch.path.map .string) ++
      Json.optionalMember "expected" (mismatch.expected.map .string) ++
      Json.optionalMember "actual" (mismatch.actual.map .string)

end Mismatch

namespace VerificationFailure

/-- The wording of a failed verification. -/
def message (failure : VerificationFailure) : String :=
  "Verification failed with " ++ decimalText failure.mismatches.length ++ " mismatch(es)"

/-- The failed verification as JSON. -/
def toJson (failure : VerificationFailure) : Json :=
  .object [("mismatches", .array (failure.mismatches.map Mismatch.toJson))]

end VerificationFailure

/-- Why a pact was not verified. -/
inductive VerificationError where
  | encoding (failures : List InteractionFailure)
  | mismatched (failure : VerificationFailure)
  deriving DecidableEq, Repr, Inhabited

/-- The wording of the error. -/
def VerificationError.message : VerificationError → String
  | encoding failures => InteractionFailure.summaries failures
  | mismatched failure => failure.message

/-- Hands the contract to a server. -/
def Pact.verify (pact : Pact) (server : MockServer) (protocol : Protocol) :
    Except VerificationError Document :=
  match pact.document with
  | .error failures => .error (.encoding failures)
  | .ok document =>
    match server document protocol with
    | .ok () => .ok document
    | .error failure => .error (.mismatched failure)

end ConsumerContract
