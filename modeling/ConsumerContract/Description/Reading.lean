/-
This file reads descriptions of contracts: JSON objects that name a consumer, a
provider and their interactions, with matchers and generators written as
markers. An interaction that can not be read is left out, and one whose messages
can not be encoded is kept with its failures. In both cases there are findings,
and the other interactions are read as if nothing had happened.
-/

import ConsumerContract.Authoring.Marker
import ConsumerContract.Character.Property
import ConsumerContract.Description.Finding
import ConsumerContract.Description.Location
import ConsumerContract.Pact.Basic

namespace ConsumerContract

/-- The fields of a JSON object. -/
abbrev DescriptionFields := List (String × Json)

namespace Description

/-! ### Messages -/

/-- A message, which has to be an object. -/
def messageFields (location name : String) : Option Json → Except Finding DescriptionFields
  | some (.object fields) => .ok fields
  | some _ => .error (.located location .messageNotObject)
  | none => .error (.located location (.missingField name))

/-- The method of a request. -/
def method (location : String) (fields : DescriptionFields) : Except Finding HttpMethod :=
  match (Keyed.find? "method" fields).bind Json.text? with
  | none => .error (.located location (.missingField "method"))
  | some text =>
    match HttpMethod.ofText? text with
    | some method => .ok method
    | none => .error (.located (Location.field location "method") (.unknownMethod text))

/-- The values of a query parameter: one value, or a list of them. -/
def queryValues (source : ExampleSource) : Json → List Node
  | .array items => Node.ofMarkedItems source 0 items
  | single => [.ofMarkedJson source single]

/-- The values of each query parameter. -/
def query (source : ExampleSource) (location : String) (fields : DescriptionFields) :
    Except Finding (Keyed (List Node)) :=
  match Keyed.find? "query" fields with
  | none => .ok []
  | some (.object parameters) =>
    .ok <| .ofList <| parameters.mapIdx fun position (name, value) =>
      (name, queryValues (source.part position) value)
  | some _ => .error (.located (Location.field location "query") .queryNotObject)

/-- The headers of a message. -/
def headers (source : ExampleSource) (location : String) (fields : DescriptionFields) :
    Except Finding (Keyed Node) :=
  match Keyed.find? "headers" fields with
  | none => .ok []
  | some (.object headers) => .ok (.ofList (Node.ofMarkedMembers source 0 headers))
  | some _ => .error (.located (Location.field location "headers") .headersNotObject)

/-- The body of a message, which may be null. -/
def body (source : ExampleSource) (fields : DescriptionFields) : Option Node :=
  (Keyed.find? "body" fields).map (.ofMarkedJson source)

/-- A request. -/
def request (source : ExampleSource) (location : String) (value : Option Json) :
    Except Finding Request := do
  let fields ← messageFields location "request" value
  let method ← method location fields
  let some path := Keyed.find? "path" fields
    | throw (.located location (.missingField "path"))
  let query ← query (source.part 1) location fields
  let headers ← headers (source.part 2) location fields
  return {
    method
    path := .ofMarkedJson (source.part 0) path
    query
    headers
    body := body (source.part 3) fields }

/-- The number of a status, if it is one of HTTP. -/
def statusNumber? (value : Json) : Option UInt16 :=
  value.toUInt64?.bind fun number =>
    if 100 ≤ number ∧ number ≤ 599 then some number.toUInt16 else none

/-- The status of a response. -/
def status (location : String) (fields : DescriptionFields) : Except Finding UInt16 :=
  match Keyed.find? "status" fields with
  | none => .error (.located location (.missingField "status"))
  | some value =>
    match statusNumber? value with
    | some status => .ok status
    | none => .error (.located (Location.field location "status") (.invalidStatus value.compact))

/-- A response. -/
def response (source : ExampleSource) (location : String) (value : Option Json) :
    Except Finding Response := do
  let fields ← messageFields location "response" value
  let status ← status location fields
  let headers ← headers (source.part 2) location fields
  return { status, headers, body := body (source.part 3) fields }

/-! ### Provider states -/

/-- The value of a parameter: a text as it is, anything else as JSON. -/
def parameterText : Json → String
  | .string text => text
  | other => other.compact

/-- A provider state, which has to have a name. -/
def providerState? (value : Json) : Option ProviderState :=
  ((value.member? "name").bind Json.text?).map fun name =>
    let parameters := ((value.member? "params").bind Json.members?).getD []
    { name
      parameters := .ofList (parameters.map fun (key, value) => (key, parameterText value)) }

/-- All provider states of an interaction. -/
def providerStates (location : String) (fields : DescriptionFields) :
    Except Finding (List ProviderState) :=
  match Keyed.find? "providerStates" fields with
  | none => .ok []
  | some value =>
    match value.items?.bind (·.mapM providerState?) with
    | some states => .ok states
    | none => .error (.located (Location.field location "providerStates") .invalidStates)

/-! ### Interactions -/

/-- What the description of one interaction gives. -/
structure ItemReading where
  location : String
  interaction : Option Interaction := none
  findings : List Finding := []
  deriving Inhabited

/-- The finding of a part that can not be read. -/
def findingOf {α : Type} : Except Finding α → List Finding
  | .ok _ => []
  | .error finding => [finding]

/-- The findings for the failures of a message that has just been attached. -/
def encodingFindings (location : String) (elements : List AuthoredElement)
    (before after : Interaction) : List Finding :=
  (after.failures.drop before.failures.length).map fun failure =>
    .located (Location.encoded location (failingElement? after.maxDepth elements) failure.path)
      (.notEncoded failure)

/-- The interaction before its messages are attached. -/
def bareInteraction (maxDepth : Nat) (description : String) (state : Option String)
    (states : List ProviderState) : Interaction :=
  let interaction := (Interaction.new description).withMaxDepth maxDepth
  let stated := state.elim interaction interaction.given
  if states.isEmpty then stated else stated.givenStates states

/-- Attaches both messages, whether they can be encoded or not. -/
def attach (location : String) (interaction : Interaction) (request : Request)
    (response : Response) : ItemReading :=
  let requested := interaction.withRequest request
  let answered := requested.withResponse response
  { location
    interaction := some answered
    findings :=
      encodingFindings (Location.field location "request") request.elements interaction
        requested ++
      encodingFindings (Location.field location "response") response.elements requested
        answered }

/-- Reads one interaction. Its messages and states are all looked at, even if one of them
can not be read. -/
def interaction (source : ExampleSource) (maxDepth : Nat) (location : String) :
    Json → ItemReading
  | .object fields =>
    match (Keyed.find? "description" fields).bind Json.text? with
    | none => { location, findings := [.located location (.missingField "description")] }
    | some description =>
      let request :=
        request (source.part 0) (Location.field location "request") (Keyed.find? "request" fields)
      let response :=
        response (source.part 1) (Location.field location "response")
          (Keyed.find? "response" fields)
      let states := providerStates location fields
      let state := (Keyed.find? "providerState" fields).bind Json.text?
      match request, response, states with
      | .ok request, .ok response, .ok states =>
        attach location (bareInteraction maxDepth description state states) request response
      | _, _, _ =>
        { location
          findings := findingOf request ++ findingOf response ++ findingOf states }
  | _ => { location, findings := [.located location .interactionNotObject] }

/-- Reads all interactions, each on its own. -/
def interactions (source : ExampleSource) (maxDepth : Nat) (items : List Json) :
    List ItemReading :=
  items.mapIdx fun position item =>
    interaction (source.part position) maxDepth (Location.interaction position) item

/-- Adds a finding to each interaction whose description has been seen before. -/
def markDuplicates (seen : List String) : List ItemReading → List ItemReading
  | [] => []
  | reading :: rest =>
    match reading.interaction with
    | none => reading :: markDuplicates seen rest
    | some { description, .. } =>
      let duplicate : List Finding :=
        if seen.contains description then
          [.located (Location.field reading.location "description")
            (.duplicateDescription description)]
        else []
      { reading with findings := reading.findings ++ duplicate } ::
        markDuplicates (description :: seen) rest

/-! ### Contracts -/

/-- The name of the consumer or of the provider: a text, or an object with one. -/
def participantName? (role : String) (fields : DescriptionFields) : Option String :=
  let name :=
    match Keyed.find? role fields with
    | some (.string name) => some name
    | some (.object named) => (Keyed.find? "name" named).bind Json.text?
    | _ => none
  name.filter fun name => !name.toList.all Character.isBlank

/-- The name, which must not be blank. -/
def participant (role : String) (fields : DescriptionFields) : Except Finding String :=
  match participantName? role fields with
  | some name => .ok name
  | none => .error (.located role (.noName role))

/-- The descriptions of the interactions. -/
def items (fields : DescriptionFields) : Except Finding (List Json) :=
  match Keyed.find? "interactions" fields with
  | some (.array items) => .ok items
  | some _ => .error (.located "interactions" .interactionsNotList)
  | none => .error ⟨.interactionsMissing, none⟩

end Description

/-- What a description gives: a pact if both participants have names, and findings. -/
structure DescriptionReading where
  pact : Option Pact := none
  findings : List Finding := []
  deriving Inhabited

namespace DescriptionReading

/-- How many interactions could be encoded. -/
def compiledCount (reading : DescriptionReading) : Nat :=
  match reading.pact with
  | none => 0
  | some pact => (pact.interactions.filter (·.failures.isEmpty)).length

/-- Adds what was read from a file to a report. -/
def addTo (reading : DescriptionReading) (file : String) (report : Report) : Report :=
  let report := report.addIssues (reading.findings.map (·.issue file))
  { report with interactionsCompiled := report.interactionsCompiled + reading.compiledCount }

end DescriptionReading

namespace Description

/-- The finding about a list of interactions that is empty. -/
def emptyFinding : Except Finding (List Json) → List Finding
  | .ok [] => [.located "interactions" .noInteractions]
  | _ => []

/-- Reads the description of a contract. -/
def contract (source : ExampleSource) (maxDepth : Nat) : Json → DescriptionReading
  | .object fields =>
    let consumer := participant "consumer" fields
    let provider := participant "provider" fields
    let items := items fields
    let shape := findingOf consumer ++ findingOf provider ++ findingOf items
    match consumer, provider with
    | .ok consumer, .ok provider =>
      let readings := markDuplicates [] (interactions source maxDepth (items.toOption.getD []))
      { pact := some { consumer, provider, interactions := readings.filterMap (·.interaction) }
        findings := shape ++ emptyFinding items ++ readings.flatMap (·.findings) }
    | _, _ => { findings := shape }
  | _ => { findings := [⟨.notObject, none⟩] }

end Description

end ConsumerContract
