/-
This file holds pacts, the interactions that a consumer declares with one
provider, and the contract documents they give. A document exists only if every
message of every interaction could be encoded.
-/

import ConsumerContract.Interaction.Basic

namespace ConsumerContract

/-- A failure and the interaction it belongs to. -/
structure InteractionFailure where
  description : String
  failure : EncodingFailure
  deriving DecidableEq, Repr, Inhabited

/-- A finished contract. -/
structure Document where
  consumer : String
  provider : String
  interactions : List Interaction
  deriving Inhabited

/-- Interactions between a consumer and a provider. -/
structure Pact where
  consumer : String
  provider : String
  interactions : List Interaction := []
  deriving Inhabited

namespace InteractionFailure

/-- The failure in a list of failures. -/
def summary (failure : InteractionFailure) : String :=
  "\"" ++ failure.description ++ "\" (" ++ failure.failure.message ++ ")"

/-- The wording for all failures of a pact. -/
def summaries (failures : List InteractionFailure) : String :=
  decimalText failures.length ++ " interaction(s) could not be encoded: " ++
    "; ".intercalate (failures.map summary)

/-- The failure as a message with the path it is about. -/
def located (failure : InteractionFailure) : String × String :=
  (failure.description ++ ": " ++ failure.failure.message, failure.failure.path.text)

end InteractionFailure

namespace Document

/-- The version of the format that contracts are written in. -/
def specificationVersion : String := "3.0.0"

/-- The version of this library. -/
def libraryVersion : String := "0.1.0"

/-- The name of the file for a contract. -/
def fileName (document : Document) : String :=
  document.consumer ++ "-" ++ document.provider ++ ".json"

/-- A participant as it appears in a contract. -/
def participant (name : String) : Json :=
  .object [("name", .string name)]

/-- A version as it appears in a contract. -/
def version (text : String) : Json :=
  .object [("version", .string text)]

/-- The whole contract. -/
def toJson (document : Document) : Json :=
  .object [("consumer", participant document.consumer),
    ("provider", participant document.provider),
    ("interactions", .array (document.interactions.map Interaction.toJson)),
    ("metadata", .object [("pactSpecification", version specificationVersion),
      ("pactBuilder", version libraryVersion)])]

end Document

/-- What takes failures of tests: a message, and the place that it is about. -/
abbrev FailureReporter (m : Type → Type) := String → Option String → m Unit

namespace Pact

/-- Adds an interaction. -/
def push (pact : Pact) (interaction : Interaction) : Pact :=
  { pact with interactions := pact.interactions ++ [interaction] }

/-- All failures in the order in which they arose. -/
def failures (pact : Pact) : List InteractionFailure :=
  pact.interactions.flatMap fun interaction =>
    interaction.failures.map fun failure => ⟨interaction.description, failure⟩

/-- The contract, or all failures. -/
def document (pact : Pact) : Except (List InteractionFailure) Document :=
  match pact.failures with
  | [] => .ok ⟨pact.consumer, pact.provider, pact.interactions⟩
  | failures => .error failures

/-- Reports all failures one by one, and tells how many there were. -/
def reportFailures {m : Type → Type} [Monad m] (pact : Pact) (reporter : FailureReporter m) :
    m Nat := do
  pact.failures.forM fun failure =>
    let (message, place) := failure.located
    reporter message (some place)
  return pact.failures.length

end Pact

end ConsumerContract
