/-
This file reads trees that are authored as JSON. An object with a matcher type
or a generator type is a marker: it stands for a matcher, a generator or both,
with the example under `value` and the parameters beside it. All other JSON is
plain data. A marker of an unknown type, or with unusable parameters, gives an
invalid node and is never taken for data.
-/

import ConsumerContract.Authoring.Composite

namespace ConsumerContract

/-- A marker that declares nothing usable. -/
structure MarkerFault where
  description : String
  problem : Option String
  deriving DecidableEq, Repr, Inhabited

/-- The node that reports a fault. -/
def MarkerFault.node (fault : MarkerFault) : Node :=
  .invalid fault.description fault.problem

/-- The object of a marker. -/
abbrev MarkerFields := List (String × Json)

namespace Marker

/-- The member that names a matcher. -/
def matcherKey : String := "pact:matcher:type"

/-- The member that names a generator. -/
def generatorKey : String := "pact:generator:type"

/-- Whether an object is a marker. -/
def isMarker (fields : MarkerFields) : Bool :=
  Keyed.contains matcherKey fields || Keyed.contains generatorKey fields

/-- A marker whose parameters are unusable. -/
def unusable (kind problem : String) : MarkerFault :=
  ⟨kind, some problem⟩

/-- A marker that is not known. -/
def unknown (description : String) : MarkerFault :=
  ⟨description, none⟩

/-! ### Parameters -/

/-- The name of a kind, which has to be a text. -/
def kindName : Json → Except MarkerFault String
  | .string name => .ok name
  | other => .error (unknown other.compact)

/-- The name of a kind, if the marker has one. -/
def kindName? (fields : MarkerFields) (key : String) : Except MarkerFault (Option String) :=
  match Keyed.find? key fields with
  | none => .ok none
  | some value => (kindName value).map some

/-- A parameter that has to be a text. -/
def requiredText (kind : String) (fields : MarkerFields) (key : String) :
    Except MarkerFault String :=
  match Keyed.find? key fields with
  | some (.string text) => .ok text
  | _ => .error (unusable kind ("'" ++ key ++ "' must be a string"))

/-- A parameter that has to be a text where it is given. -/
def optionalText (kind : String) (fields : MarkerFields) (key : String) :
    Except MarkerFault (Option String) :=
  match Keyed.find? key fields with
  | none | some .null => .ok none
  | some (.string text) => .ok (some text)
  | some _ => .error (unusable kind ("'" ++ key ++ "' must be a string"))

/-- A parameter that has to be a count where it is given. -/
def optionalCount (kind : String) (fields : MarkerFields) (key : String) :
    Except MarkerFault (Option UInt64) :=
  match Keyed.find? key fields with
  | none | some .null => .ok none
  | some value =>
    match value.toUInt64? with
    | some count => .ok (some count)
    | none => .error (unusable kind ("'" ++ key ++ "' must be a non-negative integer"))

/-- A parameter that has to be an integer where it is given. -/
def optionalInteger (kind : String) (fields : MarkerFields) (key : String) :
    Except MarkerFault (Option Int64) :=
  match Keyed.find? key fields with
  | none | some .null => .ok none
  | some value =>
    match value.toInt64? with
    | some number => .ok (some number)
    | none => .error (unusable kind ("'" ++ key ++ "' must be an integer"))

/-- A format has to be a date pattern. -/
def checkFormat (kind format : String) : Except MarkerFault Unit :=
  match DatePattern.ofText format with
  | .ok _ => .ok ()
  | .error fault => .error (unusable (Matcher.quotedCall kind format) (fault.message format))

/-- The example of a marker that can not do without. -/
def requiredSample (kind : String) : Option Node → Except MarkerFault Node
  | some sample => .ok sample
  | none => .error (unusable kind "a 'value' is required")

/-! ### Matchers -/

/-- The rule that a matcher type and its parameters declare. -/
def rule (kind : String) (fields : MarkerFields) : Except MarkerFault Rule :=
  match kind with
  | "type" => do
    let min ← optionalCount kind fields "min"
    let max ← optionalCount kind fields "max"
    return .type min max
  | "equality" => .ok .equality
  | "integer" => .ok .integer
  | "decimal" => .ok .decimal
  | "number" => .ok .number
  | "null" => .ok .null
  | "boolean" => .ok .boolean
  | "notEmpty" => .ok .notEmpty
  | "semver" => .ok .semver
  | "regex" => return .regex (← requiredText kind fields "regex")
  | "include" => return .includes (← requiredText kind fields "value")
  | "timestamp" | "datetime" => return .timestamp (← dateFormat kind)
  | "date" => return .date (← dateFormat kind)
  | "time" => return .time (← dateFormat kind)
  | "eachLike" | "arrayContains" | "statusCode" =>
    .error (unusable kind "this matcher can not be combined with a generator")
  | other => .error (unknown ("unknown matcher type '" ++ other ++ "'"))
where
  /-- The format of a date or time rule. -/
  dateFormat (kind : String) : Except MarkerFault String := do
    let format ← requiredText kind fields "format"
    checkFormat kind format
    return format

/-- A repetition of the example. -/
def repetition (kind : String) (fields : MarkerFields) (sample : Option Node) :
    Except MarkerFault Node := do
  let min ← optionalCount kind fields "min"
  let max ← optionalCount kind fields "max"
  return Matcher.eachLikeWithin (← requiredSample kind sample) min max

/-- An array with given variants. -/
def arrayContains (kind : String) : Option (List Node) → Except MarkerFault Node
  | some variants => .ok (Matcher.arrayContains variants)
  | none => .error (unusable kind "'variants' must be an array")

/-- A status code in a list. -/
def statusCode? (code : Json) : Option UInt16 :=
  code.toUInt64?.bind fun number =>
    if number.toNat < UInt16.size then some (UInt16.ofNat number.toNat) else none

/-- The statuses that a marker allows. -/
def statusRange (kind : String) (fields : MarkerFields) : Except MarkerFault StatusRange :=
  match Keyed.find? "status" fields with
  | some (.string name) =>
    match StatusClass.ofName? name with
    | some statusClass => .ok (.statusClass statusClass)
    | none => .error (unusable kind ("unknown status class '" ++ name ++ "'"))
  | some (.array codes) =>
    match codes.mapM statusCode? with
    | some codes => .ok (.codes codes)
    | none => .error (unusable kind "status codes must be integers")
  | _ => .error (unusable kind "'status' must be a class name or a list of codes")

/-- The node of a matcher type. A type with bounds is a repetition. -/
def matcher (kind : String) (fields : MarkerFields) (sample : Option Node)
    (variants : Option (List Node)) : Except MarkerFault Node :=
  if kind = "eachLike" then repetition kind fields sample
  else if kind = "type" ∧ (Keyed.contains "min" fields ∨ Keyed.contains "max" fields) then
    repetition kind fields sample
  else if kind = "arrayContains" then arrayContains kind variants
  else if kind = "statusCode" then (statusRange kind fields).map Matcher.statusCode
  else do
    let rule ← rule kind fields
    return Matcher.single rule (← requiredSample kind sample)

/-! ### Generators -/

/-- The length of a generated value if none is given. -/
def defaultLength : UInt64 := 10

/-- The least generated integer if none is given. -/
def defaultMin : Int64 := 0

/-- The greatest generated integer if none is given. -/
def defaultMax : Int64 := 10

/-- A count, at most `largest`. -/
def cappedCount (count : UInt64) (largest : UInt8) : UInt8 :=
  UInt8.ofNat (min count.toNat largest.toNat)

/-- The declaration of a part of a moment. -/
def calendarDeclaration (part : CalendarPart) (fields : MarkerFields) :
    Except MarkerFault Generator := do
  let format ← optionalText part.kind fields "format"
  match format with
  | some format => checkFormat part.kind format
  | none => .ok ()
  return .calendar part format (← optionalText part.kind fields "expression")

/-- The declaration of a UUID. -/
def uuidDeclaration (kind : String) (fields : MarkerFields) : Except MarkerFault Generator := do
  match ← optionalText kind fields "format" with
  | none => return .uuid none
  | some name =>
    match UuidFormat.ofName? name with
    | some format => return .uuid (some format)
    | none => .error (unusable kind ("unknown UUID format '" ++ name ++ "'"))

/-- The generator that a generator type and its parameters declare. -/
def declaration (kind : String) (fields : MarkerFields) : Except MarkerFault Generator :=
  match kind with
  | "RandomBoolean" => .ok .randomBoolean
  | "RandomInt" => do
    let min ← optionalInteger kind fields "min"
    let max ← optionalInteger kind fields "max"
    return .randomInt (min.getD defaultMin) (max.getD defaultMax)
  | "RandomDecimal" => do
    let digits := (← optionalCount kind fields "digits").getD defaultLength
    if digits = 0 then .error (unusable kind "a decimal needs at least one digit")
    else return .randomDecimal (cappedCount digits Generator.maxDecimalDigits)
  | "RandomHexadecimal" => do
    let digits := (← optionalCount kind fields "digits").getD defaultLength
    return .randomHexadecimal (cappedCount digits 255)
  | "RandomString" => do
    let size := (← optionalCount kind fields "size").getD defaultLength
    if Generator.maxStringSize < size then .error (unusable kind (sizeProblem size))
    else return .randomString size
  | "Regex" => return .regex (← requiredText kind fields "regex")
  | "Date" => calendarDeclaration .date fields
  | "Time" => calendarDeclaration .time fields
  | "DateTime" => calendarDeclaration .dateTime fields
  | "Uuid" => uuidDeclaration kind fields
  | "ProviderState" => return .providerState (← requiredText kind fields "expression")
  | "MockServerURL" => do
    let sample ← requiredText kind fields "example"
    return .mockServerUrl sample (← requiredText kind fields "regex")
  | other => .error (unknown ("unknown generator type '" ++ other ++ "'"))

/-- The node of a generator type; without an example one is computed. -/
def generator (source : ExampleSource) (kind : String) (fields : MarkerFields)
    (sample : Option Node) :
    Except MarkerFault Node := do
  let declaration ← declaration kind fields
  match sample with
  | some sample => return .generator declaration sample
  | none => return Generated.ofDeclaration source declaration

/-- The node of a matcher type and a generator type; without an example one is computed. -/
def composite (source : ExampleSource) (matcherKind generatorKind : String)
    (fields : MarkerFields) (sample : Option Node) : Except MarkerFault Node := do
  let rule ← rule matcherKind fields
  let declaration ← declaration generatorKind fields
  match sample with
  | some sample => return .composite rule declaration sample
  | none =>
    match Generated.ofDeclaration source declaration with
    | .generator _ sample => return .composite rule declaration sample
    | unusable => return unusable

/-! ### Trees -/

/-- The node that a marker stands for, given its example and its variants as nodes. -/
def node (source : ExampleSource) (fields : MarkerFields) (sample : Option Node)
    (variants : Option (List Node)) : Except MarkerFault Node := do
  let matcherKind ← kindName? fields matcherKey
  let generatorKind ← kindName? fields generatorKey
  match matcherKind, generatorKind with
  | some kind, none => matcher kind fields sample variants
  | none, some kind => generator source kind fields sample
  | some matcherKind, some generatorKind =>
    composite source matcherKind generatorKind fields sample
  | none, none => .error (unknown (Json.object fields).compact)

/-- The items of a sequence. -/
def sequenceItems? : Node → Option (List Node)
  | .sequence items => some items
  | _ => none

/-- A JSON array among the members of a marker as nodes. Only arrays become sequences. -/
def variants? (members : List (String × Node)) : Option (List Node) :=
  (Keyed.find? "variants" members).bind sequenceItems?

end Marker

namespace Node

mutual

/-- The tree that JSON with markers describes. -/
def ofMarkedJson (source : ExampleSource) : Json → Node
  | .null => null
  | .bool value => bool value
  | .number numeral => ofNumeral numeral
  | .string text => string text
  | .array items => .sequence (ofMarkedItems source 0 items)
  | .object members =>
    let nodes := ofMarkedMembers source 0 members
    if Marker.isMarker members then
      match Marker.node source members (Keyed.find? "value" nodes) (Marker.variants? nodes) with
      | .ok node => node
      | .error fault => fault.node
    else ofMembers nodes

/-- Each item as a tree. -/
def ofMarkedItems (source : ExampleSource) (position : Nat) : List Json → List Node
  | [] => []
  | item :: rest =>
    ofMarkedJson (source.part position) item :: ofMarkedItems source (position + 1) rest

/-- Each member as a tree. -/
def ofMarkedMembers (source : ExampleSource) (position : Nat) :
    List (String × Json) → List (String × Node)
  | [] => []
  | (key, value) :: rest =>
    (key, ofMarkedJson (source.part position) value) :: ofMarkedMembers source (position + 1) rest

end

end Node

end ConsumerContract
