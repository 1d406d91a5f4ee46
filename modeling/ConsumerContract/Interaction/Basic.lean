/-
This file holds interactions: a request and the response it should receive. A
message is compiled when it is attached. One that can not be encoded leaves the
interaction as it was, and its failure is kept to be reported later, so that a
faulty interaction does not keep others from being declared.
-/

import ConsumerContract.Interaction.Message

namespace ConsumerContract

/-- A state the provider has to be in, with its parameters. -/
structure ProviderState where
  name : String
  parameters : Keyed String := []
  deriving DecidableEq, Repr, Inhabited

/-- The state as it appears in a contract. -/
def ProviderState.toJson (state : ProviderState) : Json :=
  .object [("name", .string state.name),
    ("params", .object (state.parameters.map fun (key, value) => (key, .string value)))]

/-- An exchange between consumer and provider. -/
structure Interaction where
  description : String
  providerState : Option String := none
  providerStates : List ProviderState := []
  request : Option CompiledRequest := none
  response : Option CompiledResponse := none
  /-- The failures of messages that could not be attached, in order. -/
  failures : List EncodingFailure := []
  /-- The limit for the messages that are attached from now on. -/
  maxDepth : Nat := Node.defaultMaxDepth
  deriving Inhabited

namespace Interaction

/-- An interaction without messages. -/
def new (description : String) : Interaction :=
  { description }

/-- Sets the limit for the messages that follow. -/
def withMaxDepth (interaction : Interaction) (maxDepth : Nat) : Interaction :=
  { interaction with maxDepth }

/-- Names the state of the provider. -/
def given (interaction : Interaction) (state : String) : Interaction :=
  { interaction with providerState := some state }

/-- Gives the states of the provider with their parameters. -/
def givenStates (interaction : Interaction) (states : List ProviderState) : Interaction :=
  { interaction with providerStates := states }

/-- Attaches a request. -/
def withRequest (interaction : Interaction) (request : Request) : Interaction :=
  match request.compile interaction.maxDepth with
  | .ok compiled => { interaction with request := some compiled }
  | .error failure => { interaction with failures := interaction.failures ++ [failure] }

/-- Attaches the response to the request. -/
def withResponse (interaction : Interaction) (response : Response) : Interaction :=
  match response.compile interaction.maxDepth with
  | .ok compiled => { interaction with response := some compiled }
  | .error failure => { interaction with failures := interaction.failures ++ [failure] }

/-- The provider states, left out if there are none. -/
def statesMember : List ProviderState → List (String × Json)
  | [] => []
  | states => [("providerStates", .array (states.map ProviderState.toJson))]

/-- The interaction as it appears in a contract. -/
def toJson (interaction : Interaction) : Json :=
  .object <|
    ("description", .string interaction.description) ::
      Json.optionalMember "providerState" (interaction.providerState.map .string) ++
      statesMember interaction.providerStates ++
      Json.optionalMember "request" (interaction.request.map CompiledRequest.toJson) ++
      Json.optionalMember "response" (interaction.response.map CompiledResponse.toJson)

end Interaction

end ConsumerContract
