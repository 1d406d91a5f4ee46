/-
This file holds requests and responses, as they are authored and as they are
compiled. The elements of a message are encoded one by one and independently of
each other. What they give is collected, and the fields of the compiled message
are filled from that.
-/

import ConsumerContract.Interaction.Assembled
import ConsumerContract.Interaction.Method

namespace ConsumerContract

/-- An element with the tree it is authored as. -/
abbrev AuthoredElement := Element × Node

/-- Encodes elements in order, up to the first that fails. -/
def encodeElements (maxDepth : Nat) :
    List AuthoredElement → Except EncodingFailure (List EncodedElement)
  | [] => .ok []
  | (element, node) :: rest => do
    let encoded ← node.encode element maxDepth
    let others ← encodeElements maxDepth rest
    return encoded :: others

/-- The first element that fails. -/
def failingElement? (maxDepth : Nat) : List AuthoredElement → Option Element
  | [] => none
  | (element, node) :: rest =>
    match node.encode element maxDepth with
    | .ok _ => failingElement? maxDepth rest
    | .error _ => some element

/-- The members that every message may have, each of them left out if it has no value. -/
def messageMembers (headers body : Option Json)
    (matchingRules : Option (ElementMap (Declarations RuleSet)))
    (generators : Option (ElementMap (Declarations Generator))) : List (String × Json) :=
  Json.optionalMember "headers" headers ++ Json.optionalMember "body" body ++
    Json.optionalMember "matchingRules"
      (matchingRules.map (ElementMap.toJson (·.toJson RuleSet.toJson))) ++
    Json.optionalMember "generators"
      (generators.map (ElementMap.toJson (·.toJson Generator.toJson)))

/-- The element of authored headers; an empty map is left out. -/
def headerElement : Keyed Node → List AuthoredElement
  | [] => []
  | headers => [(.header, .mapping headers)]

/-- The element of an authored body. -/
def bodyElement : Option Node → List AuthoredElement
  | none => []
  | some body => [(.body, body)]

/-! ### Requests -/

/-- A request as it is authored. -/
structure Request where
  method : HttpMethod
  path : Node
  query : Keyed (List Node) := []
  headers : Keyed Node := []
  body : Option Node := none
  deriving Inhabited

/-- A request as it appears in a contract. -/
structure CompiledRequest where
  method : HttpMethod
  path : Json
  query : Option Json
  headers : Option Json
  body : Option Json
  matchingRules : Option (ElementMap (Declarations RuleSet))
  generators : Option (ElementMap (Declarations Generator))
  deriving Inhabited

/-- The fields of a request, filled from what has been collected. -/
def Assembled.toRequest (assembled : Assembled) (method : HttpMethod) : CompiledRequest where
  method
  path := (assembled.values.find? .path).getD .null
  query := assembled.values.find? .query
  headers := assembled.values.find? .header
  body := assembled.values.find? .body
  matchingRules := assembled.rules.nonEmpty?
  generators := assembled.generators.nonEmpty?

namespace Request

/-- The element of authored query parameters, one list of values for each name. -/
def queryElement : Keyed (List Node) → List AuthoredElement
  | [] => []
  | query => [(.query, .mapping (query.map fun (name, values) => (name, .sequence values)))]

/-- The elements in the order in which they are encoded. -/
def elements (request : Request) : List AuthoredElement :=
  (.path, request.path) :: queryElement request.query ++ headerElement request.headers ++
    bodyElement request.body

/-- Encodes all elements of the request. -/
def compile (request : Request) (maxDepth : Nat) : Except EncodingFailure CompiledRequest := do
  let encoded ← encodeElements maxDepth request.elements
  return (Assembled.ofElements encoded).toRequest request.method

end Request

/-- The JSON form of a request. -/
def CompiledRequest.toJson (request : CompiledRequest) : Json :=
  .object <|
    ("method", .string request.method.name) :: ("path", request.path) ::
      Json.optionalMember "query" request.query ++
      messageMembers request.headers request.body request.matchingRules request.generators

/-! ### Responses -/

/-- A response as it is authored. -/
structure Response where
  status : UInt16
  headers : Keyed Node := []
  body : Option Node := none
  deriving Inhabited

/-- A response as it appears in a contract. -/
structure CompiledResponse where
  status : UInt16
  headers : Option Json
  body : Option Json
  matchingRules : Option (ElementMap (Declarations RuleSet))
  generators : Option (ElementMap (Declarations Generator))
  deriving Inhabited

/-- The fields of a response, filled from what has been collected. -/
def Assembled.toResponse (assembled : Assembled) (status : UInt16) : CompiledResponse where
  status
  headers := assembled.values.find? .header
  body := assembled.values.find? .body
  matchingRules := assembled.rules.nonEmpty?
  generators := assembled.generators.nonEmpty?

namespace Response

/-- The elements in the order in which they are encoded. -/
def elements (response : Response) : List AuthoredElement :=
  headerElement response.headers ++ bodyElement response.body

/-- Encodes all elements of the response. -/
def compile (response : Response) (maxDepth : Nat) :
    Except EncodingFailure CompiledResponse := do
  let encoded ← encodeElements maxDepth response.elements
  return (Assembled.ofElements encoded).toResponse response.status

end Response

/-- The JSON form of a response. -/
def CompiledResponse.toJson (response : CompiledResponse) : Json :=
  .object <|
    ("status", .ofNat response.status.toNat) ::
      messageMembers response.headers response.body response.matchingRules response.generators

end ConsumerContract
