/-
This file reads what a mock server answers with when a contract was not met: a
JSON record with the list of mismatches, each with its kind and, where they are
known, the path and what was expected and received.
-/

import ConsumerContract.Json.Record
import ConsumerContract.Pact.Verification

namespace ConsumerContract

/-- A mismatch while its fields are read; a field that was null has been read as well. -/
structure PartialMismatch where
  kind : Option String := none
  path : Option (Option String) := none
  expected : Option (Option String) := none
  actual : Option (Option String) := none
  deriving Inhabited

namespace Mismatch

/-- Whether a field has been read. -/
def hasField (mismatch : PartialMismatch) : String → Bool
  | "type" => mismatch.kind.isSome
  | "path" => mismatch.path.isSome
  | "expected" => mismatch.expected.isSome
  | "actual" => mismatch.actual.isSome
  | _ => false

/-- Reads the value of a field. -/
def readField (mismatch : PartialMismatch) : String → JsonReader PartialMismatch
  | "type" => do return { mismatch with kind := some (← JsonReader.text) }
  | "path" => do return { mismatch with path := some (← JsonReader.text?) }
  | "expected" => do return { mismatch with expected := some (← JsonReader.text?) }
  | "actual" => do return { mismatch with actual := some (← JsonReader.text?) }
  | _ => do
    JsonReader.skip
    return mismatch

/-- Only the kind has to be there. -/
def ofPartial (mismatch : PartialMismatch) : Except String Mismatch :=
  match mismatch.kind with
  | none => .error "type"
  | some kind =>
    .ok {
      kind
      path := mismatch.path.join
      expected := mismatch.expected.join
      actual := mismatch.actual.join }

/-- The record of a mismatch. -/
def shape : JsonReader.Shape PartialMismatch Mismatch where
  expected := "struct Mismatch"
  empty := {}
  fields := ["type", "path", "expected", "actual"]
  has := hasField
  field := readField
  finish := ofPartial

end Mismatch

namespace VerificationFailure

/-- The record of a failed verification. -/
def shape : JsonReader.Shape (Option (List Mismatch)) VerificationFailure where
  expected := "struct VerificationFailure"
  empty := none
  fields := ["mismatches"]
  has := fun mismatches _ => mismatches.isSome
  field := fun _ _ => some <$> JsonReader.list (JsonReader.record Mismatch.shape)
  finish
    | none => .error "mismatches"
    | some mismatches => .ok ⟨mismatches⟩

/-- The failed verification that a text describes, or the message about why it is none. -/
def parse (text : String) : Except String VerificationFailure :=
  (JsonReader.run (JsonReader.record shape) text).mapError (·.message text)

end VerificationFailure

end ConsumerContract
