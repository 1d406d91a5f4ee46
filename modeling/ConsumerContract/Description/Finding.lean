/-
This file holds what may be wrong with the description of a contract. A finding
is a problem at a location of the description. Each problem has a code, and most
have a suggestion; codes from E003 to E009 are about the shape of a description,
those from E010 on are about values that can not be encoded.
-/

import ConsumerContract.Encoding.Failure
import ConsumerContract.Interaction.Method
import ConsumerContract.Report

namespace ConsumerContract

/-- What is wrong with a description. -/
inductive DescriptionProblem where
  | notObject
  /-- The consumer or the provider has no usable name. -/
  | noName (role : String)
  | interactionsMissing
  | interactionsNotList
  | noInteractions
  | duplicateDescription (description : String)
  | interactionNotObject
  | messageNotObject
  | missingField (field : String)
  | invalidStates
  | unknownMethod (text : String)
  /-- The status is no number from 100 to 599. -/
  | invalidStatus (text : String)
  | queryNotObject
  | headersNotObject
  | notEncoded (failure : EncodingFailure)
  deriving DecidableEq, Repr, Inhabited

/-- The code for values that can not be encoded. -/
def FailureReason.code : FailureReason → String
  | notEncodable => "E010"
  | patternMismatch _ | invalidPattern .. => "E011"
  | nestedMatcher => "E012"
  | pathCollision => "E013"
  | depthExceeded _ => "E014"
  | invalidParameter _ => "E015"

/-- What may help to encode a value. -/
def FailureReason.suggestion : FailureReason → String
  | notEncodable => "Use a supported value or a known pact:matcher:type / pact:generator:type"
  | patternMismatch _ => "Change the example so it matches its own regex"
  | invalidPattern .. => "Fix the regex; mock server URL regexes need exactly one capture group"
  | nestedMatcher => "Put the inner matcher's example directly in the outer matcher"
  | pathCollision => "Remove the duplicated key"
  | depthExceeded _ => "Flatten the structure or raise the nesting limit with --max-depth"
  | invalidParameter _ => "Check the matcher or generator parameters"

namespace DescriptionProblem

/-- Only an empty or an ambiguous description is no error. -/
def severity : DescriptionProblem → Severity
  | noInteractions | duplicateDescription _ => .warning
  | _ => .error

def code : DescriptionProblem → String
  | notObject => "E003"
  | noName _ | interactionsMissing | interactionsNotList => "E004"
  | interactionNotObject | messageNotObject | missingField _ => "E005"
  | invalidStates => "E006"
  | unknownMethod _ => "E007"
  | invalidStatus _ => "E008"
  | queryNotObject | headersNotObject => "E009"
  | notEncoded failure => failure.reason.code
  | noInteractions => "W001"
  | duplicateDescription _ => "W002"

/-- The wording of a problem. -/
def message : DescriptionProblem → String
  | notObject => "Contract must be a JSON object"
  | noName role => "Missing or invalid " ++ role ++ " name"
  | interactionsMissing => "Missing required field: interactions"
  | interactionsNotList => "\"interactions\" must be an array"
  | noInteractions => "Contract declares no interactions"
  | duplicateDescription description => "Duplicate interaction description: " ++ description
  | interactionNotObject => "Interaction must be a JSON object"
  | messageNotObject => "Expected a JSON object"
  | missingField field => "Missing required field: " ++ field
  | invalidStates => "\"providerStates\" must be a list of \x7b\"name\", \"params\"\x7d objects"
  | unknownMethod text => HttpMethod.unknownMessage text
  | invalidStatus text => "Invalid status code: " ++ text
  | queryNotObject => "\"query\" must be an object of parameter names"
  | headersNotObject => "\"headers\" must be an object"
  | notEncoded failure => failure.reason.message ++ ": '" ++ failure.value ++ "'"

/-- What may help. -/
def suggestion : DescriptionProblem → Option String
  | notObject =>
    some "Wrap the contract in \x7b\"consumer\", \"provider\", \"interactions\"\x7d"
  | noName role => some ("Add \"" ++ role ++ "\": \x7b\"name\": \"...\"\x7d")
  | interactionsMissing => some "Add \"interactions\": [...] to the contract"
  | duplicateDescription _ => some "Give every interaction a unique description"
  | unknownMethod _ => some ("Use one of " ++ HttpMethod.allNames)
  | invalidStatus _ => some "Use an HTTP status code between 100 and 599"
  | queryNotObject =>
    some "Use \x7b\"name\": \"value\"\x7d or \x7b\"name\": [\"a\", \"b\"]\x7d"
  | notEncoded failure => some failure.reason.suggestion
  | _ => none

end DescriptionProblem

/-- A problem and where it is. -/
structure Finding where
  problem : DescriptionProblem
  location : Option String := none
  deriving DecidableEq, Repr, Inhabited

namespace Finding

/-- A problem at a location. -/
def located (location : String) (problem : DescriptionProblem) : Finding :=
  ⟨problem, some location⟩

/-- The finding as an issue of a file. -/
def issue (file : String) (finding : Finding) : Issue where
  severity := finding.problem.severity
  code := finding.problem.code
  message := finding.problem.message
  file := file
  location := finding.location
  suggestion := finding.problem.suggestion

end Finding

end ConsumerContract
