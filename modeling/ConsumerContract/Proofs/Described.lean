/-
This file says what the description of one interaction gives. Either some part of it
has the wrong shape: then there is no interaction, and for each such part there is an
error at a place within the item. Or there is an interaction that is described by the
item, and there is one finding for each of its messages that can not be encoded, at a
place within that message. Nothing depends on the other items.
-/

import Mathlib.Data.List.Forall2
import ConsumerContract.Proofs.Compiled
import ConsumerContract.Proofs.Reported

namespace ConsumerContract

/-! ### Faults of shape -/

/-- The codes for parts of an interaction that have the wrong shape. -/
def shapeCodes : List String :=
  ["E005", "E006", "E007", "E008", "E009"]

namespace DescriptionProblem

/-- A part of an interaction has the wrong shape. -/
def ConcernsShape : DescriptionProblem → Prop
  | interactionNotObject | messageNotObject | missingField _ | invalidStates | unknownMethod _
  | invalidStatus _ | queryNotObject | headersNotObject => True
  | _ => False

theorem ConcernsShape.severity_eq {problem : DescriptionProblem} (shape : problem.ConcernsShape) :
    problem.severity = .error := by
  cases problem with
  | noInteractions | duplicateDescription => exact shape.elim
  | _ => rfl

theorem ConcernsShape.code_mem {problem : DescriptionProblem} (shape : problem.ConcernsShape) :
    problem.code ∈ shapeCodes := by
  cases problem with
  | interactionNotObject | messageNotObject | missingField | invalidStates | unknownMethod
  | invalidStatus | queryNotObject | headersNotObject => simp [code, shapeCodes]
  | _ => exact shape.elim

end DescriptionProblem

/-- The finding is about the shape of what is described at the place. -/
structure Finding.IsFaultAt (place : String) (finding : Finding) : Prop where
  shape : finding.problem.ConcernsShape
  within : ∃ inner, finding.location = some inner ∧ Location.isWithin place inner = true

/-- The reader has no other errors than faults of what is described at the place. -/
def FaultsAt {α : Type} (place : String) (read : Except Finding α) : Prop :=
  ∀ finding, read = .error finding → finding.IsFaultAt place

namespace FaultsAt

variable {α β : Type} {place name : String}

theorem ok (value : α) : FaultsAt place (.ok value) :=
  nofun

theorem error {problem : DescriptionProblem} {inner : String} (shape : problem.ConcernsShape)
    (within : Location.isWithin place inner = true) :
    FaultsAt place (.error (.located inner problem) : Except Finding α) := by
  rintro finding same
  cases same
  exact ⟨shape, inner, rfl, within⟩

theorem bind {read : Except Finding α} {next : α → Except Finding β} (first : FaultsAt place read)
    (others : ∀ value, FaultsAt place (next value)) : FaultsAt place (read >>= next) := by
  intro finding failed
  rcases bind_eq_error.mp failed with failed | ⟨value, _, failed⟩
  · exact first finding failed
  · exact others value finding failed

theorem of_field {read : Except Finding α} (faults : FaultsAt (Location.field place name) read) :
    FaultsAt place read := by
  intro finding failed
  obtain ⟨shape, inner, named, within⟩ := faults finding failed
  exact ⟨shape, inner, named, Location.isWithin_of_field within⟩

end FaultsAt

theorem Json.eq_string_of_bind_text? {value : Option Json} {text : String}
    (named : value.bind Json.text? = some text) : value = some (.string text) := by
  obtain ⟨written, rfl, isText⟩ := Option.bind_eq_some_iff.mp named
  cases written with
  | string other => rw [Option.some.inj isText]
  | _ => cases isText

namespace Description

variable {source : ExampleSource} {maxDepth : Nat} {place : String} {fields : DescriptionFields}

section Faults

open Location

theorem messageFields_faultsAt (name : String) (value : Option Json) :
    FaultsAt place (messageFields place name value) := by
  unfold messageFields
  split
  · exact .ok _
  · exact .error trivial (isWithin_refl place)
  · exact .error trivial (isWithin_refl place)

theorem method_faultsAt : FaultsAt place (method place fields) := by
  unfold method
  split
  · exact .error trivial (isWithin_refl place)
  · split
    · exact .ok _
    · exact .error trivial (isWithin_field place _)

theorem query_faultsAt : FaultsAt place (query source place fields) := by
  unfold query
  split
  · exact .ok _
  · exact .ok _
  · exact .error trivial (isWithin_field place _)

theorem headers_faultsAt : FaultsAt place (headers source place fields) := by
  unfold headers
  split
  · exact .ok _
  · exact .ok _
  · exact .error trivial (isWithin_field place _)

theorem status_faultsAt : FaultsAt place (status place fields) := by
  unfold status
  split
  · exact .error trivial (isWithin_refl place)
  · split
    · exact .ok _
    · exact .error trivial (isWithin_field place _)

theorem providerStates_faultsAt : FaultsAt place (providerStates place fields) := by
  unfold providerStates
  split
  · exact .ok _
  · split
    · exact .ok _
    · exact .error trivial (isWithin_field place _)

theorem request_faultsAt (value : Option Json) : FaultsAt place (request source place value) := by
  unfold request
  refine (messageFields_faultsAt _ _).bind fun fields => method_faultsAt.bind fun method => ?_
  cases Keyed.find? "path" fields with
  | none => exact .error trivial (isWithin_refl place)
  | some path =>
    exact query_faultsAt.bind fun query => headers_faultsAt.bind fun headers => .ok _

theorem response_faultsAt (value : Option Json) : FaultsAt place (response source place value) :=
  (messageFields_faultsAt _ _).bind fun _ => status_faultsAt.bind fun _ =>
    headers_faultsAt.bind fun _ => .ok _

end Faults

/-! ### What the parts of an item say -/

/-- The parameters are those of the message, each with its values. -/
def GivesQuery (source : ExampleSource) (message : Json) (query : Keyed (List Node)) : Prop :=
  match message.member? "query" with
  | none => query = []
  | some written => ∃ parameters, written = .object parameters ∧
      query = .ofList (parameters.mapIdx fun position (name, value) =>
        (name, queryValues (source.part position) value))

/-- The headers are those of the message. -/
def GivesHeaders (source : ExampleSource) (message : Json) (headers : Keyed Node) : Prop :=
  match message.member? "headers" with
  | none => headers = []
  | some written => ∃ members, written = .object members ∧
      headers = .ofList (Node.ofMarkedMembers source 0 members)

/-- The states are those of the item. -/
def GivesStates (item : Json) (states : List ProviderState) : Prop :=
  match item.member? "providerStates" with
  | none => states = []
  | some written => ∃ items, written = .array items ∧ items.mapM providerState? = some states

/-- The request is the one that the message describes; its method is written in any case. -/
structure DescribesRequest (source : ExampleSource) (message : Json) (request : Request) :
    Prop where
  method : ∃ text, message.member? "method" = some (.string text) ∧
    HttpMethod.capitals text = request.method.name
  path : ∃ path, message.member? "path" = some path ∧
    request.path = .ofMarkedJson (source.part 0) path
  query : GivesQuery (source.part 1) message request.query
  headers : GivesHeaders (source.part 2) message request.headers
  body : request.body = (message.member? "body").map (.ofMarkedJson (source.part 3))

/-- The response is the one that the message describes. -/
structure DescribesResponse (source : ExampleSource) (message : Json) (response : Response) :
    Prop where
  status : ∃ status, message.member? "status" = some status ∧
    status.toUInt64? = some response.status.toUInt64
  headers : GivesHeaders (source.part 2) message response.headers
  body : response.body = (message.member? "body").map (.ofMarkedJson (source.part 3))

/-- The interaction has the description and the states of the item, and both of its messages are
compiled from those of the item. -/
structure Describes (source : ExampleSource) (maxDepth : Nat) (item : Json)
    (interaction : Interaction) : Prop where
  description : item.member? "description" = some (.string interaction.description)
  state : interaction.providerState = (item.member? "providerState").bind Json.text?
  states : GivesStates item interaction.providerStates
  request : ∃ message request compiled, item.member? "request" = some message ∧
    DescribesRequest (source.part 0) message request ∧
      request.compile maxDepth = .ok compiled ∧ compiled.method = request.method ∧
        interaction.request = some compiled
  response : ∃ message response compiled, item.member? "response" = some message ∧
    DescribesResponse (source.part 1) message response ∧
      response.compile maxDepth = .ok compiled ∧ compiled.status = response.status ∧
        interaction.response = some compiled

section Parts

theorem messageFields_eq_ok {name : String} {value : Option Json}
    (read : messageFields place name value = .ok fields) : value = some (.object fields) := by
  unfold messageFields at read
  split at read
  · exact congrArg _ (congrArg Json.object (Except.ok.inj read))
  · cases read
  · cases read

theorem method_eq_ok {method : HttpMethod} (read : Description.method place fields = .ok method) :
    ∃ text, Keyed.find? "method" fields = some (.string text) ∧
      HttpMethod.capitals text = method.name := by
  unfold Description.method at read
  split at read
  · cases read
  · rename_i text named
    split at read
    · rename_i known
      cases read
      rw [HttpMethod.ofText?, HttpMethod.ofName?] at known
      have capitals : method.name = HttpMethod.capitals text :=
        of_decide_eq_true (List.find?_some known :)
      exact ⟨text, Json.eq_string_of_bind_text? named, capitals.symm⟩
    · cases read

theorem query_eq_ok {query : Keyed (List Node)}
    (read : Description.query source place fields = .ok query) :
    GivesQuery source (.object fields) query := by
  rw [Description.query] at read
  rw [GivesQuery, Json.member?]
  cases given : Keyed.find? "query" fields with
  | none =>
    rw [given] at read
    exact (Except.ok.inj read).symm
  | some written =>
    rw [given] at read
    cases written with
    | object parameters => exact ⟨parameters, rfl, (Except.ok.inj read).symm⟩
    | _ => cases read

theorem headers_eq_ok {headers : Keyed Node}
    (read : Description.headers source place fields = .ok headers) :
    GivesHeaders source (.object fields) headers := by
  rw [Description.headers] at read
  rw [GivesHeaders, Json.member?]
  cases given : Keyed.find? "headers" fields with
  | none =>
    rw [given] at read
    exact (Except.ok.inj read).symm
  | some written =>
    rw [given] at read
    cases written with
    | object members => exact ⟨members, rfl, (Except.ok.inj read).symm⟩
    | _ => cases read

theorem providerStates_eq_ok {states : List ProviderState}
    (read : providerStates place fields = .ok states) : GivesStates (.object fields) states := by
  rw [providerStates] at read
  rw [GivesStates, Json.member?]
  cases given : Keyed.find? "providerStates" fields with
  | none =>
    rw [given] at read
    exact (Except.ok.inj read).symm
  | some written =>
    rw [given] at read
    dsimp only at read
    cases found : written.items?.bind (·.mapM providerState?) with
    | none =>
      rw [found] at read
      cases read
    | some others =>
      rw [found] at read
      obtain rfl := Except.ok.inj read
      obtain ⟨items, isArray, named⟩ := Option.bind_eq_some_iff.mp found
      cases written with
      | array list => exact ⟨list, rfl, Option.some.inj isArray ▸ named⟩
      | _ => cases isArray

theorem status_eq_ok {status : UInt16} (read : Description.status place fields = .ok status) :
    ∃ written, Keyed.find? "status" fields = some written ∧
      written.toUInt64? = some status.toUInt64 := by
  unfold Description.status at read
  split at read
  · cases read
  · rename_i written given
    split at read
    · rename_i known
      cases read
      obtain ⟨number, isNumber, inRange⟩ := Option.bind_eq_some_iff.mp known
      split at inRange
      · rename_i range
        cases inRange
        have small : number.toNat < UInt16.size :=
          Nat.lt_of_le_of_lt (UInt64.le_iff_toNat_le.mp range.2) (by decide)
        have same : number.toUInt16.toUInt64 = number := by
          rw [← UInt64.toNat_inj, UInt16.toNat_toUInt64, UInt64.toNat_toUInt16]
          exact Nat.mod_eq_of_lt small
        rw [same]
        exact ⟨written, given, isNumber⟩
      · cases inRange
    · cases read

theorem request_eq_ok {value : Option Json} {request : Request}
    (read : Description.request source place value = .ok request) :
    ∃ message, value = some message ∧ DescribesRequest source message request := by
  unfold Description.request at read
  obtain ⟨fields, isObject, read⟩ := bind_eq_ok.mp read
  obtain ⟨method, methodRead, read⟩ := bind_eq_ok.mp read
  refine ⟨.object fields, messageFields_eq_ok isObject, ?_⟩
  cases given : Keyed.find? "path" fields with
  | none =>
    rw [given] at read
    cases read
  | some path =>
    rw [given] at read
    obtain ⟨query, queryRead, read⟩ := bind_eq_ok.mp read
    obtain ⟨headers, headersRead, same⟩ := bind_eq_ok.mp read
    cases same
    exact ⟨method_eq_ok methodRead, ⟨path, given, rfl⟩, query_eq_ok queryRead,
      headers_eq_ok headersRead, rfl⟩

theorem response_eq_ok {value : Option Json} {response : Response}
    (read : Description.response source place value = .ok response) :
    ∃ message, value = some message ∧ DescribesResponse source message response := by
  unfold Description.response at read
  obtain ⟨fields, isObject, read⟩ := bind_eq_ok.mp read
  obtain ⟨status, statusRead, read⟩ := bind_eq_ok.mp read
  obtain ⟨headers, headersRead, same⟩ := bind_eq_ok.mp read
  cases same
  exact ⟨.object fields, messageFields_eq_ok isObject,
    ⟨status_eq_ok statusRead, headers_eq_ok headersRead, rfl⟩⟩

end Parts

end Description

/-! ### Messages that are attached -/

/-- The error, if there is one. -/
def errorsOf {ε α : Type} : Except ε α → List ε
  | .ok _ => []
  | .error failure => [failure]

theorem eq_ok_of_errorsOf_eq_nil {ε α : Type} {result : Except ε α} (clean : errorsOf result = []) :
    ∃ value, result = .ok value := by
  cases result with
  | ok value => exact ⟨value, rfl⟩
  | error failure => cases clean

namespace Interaction

theorem withRequest_eq (interaction : Interaction) (fresh : interaction.request = none)
    (request : Request) :
    interaction.withRequest request =
      { interaction with
        request := (request.compile interaction.maxDepth).toOption
        failures := interaction.failures ++ errorsOf (request.compile interaction.maxDepth) } := by
  rw [withRequest]
  cases request.compile interaction.maxDepth with
  | ok compiled => simp [errorsOf, Except.toOption]
  | error failure => simp [errorsOf, Except.toOption, ← fresh]

theorem withResponse_eq (interaction : Interaction) (fresh : interaction.response = none)
    (response : Response) :
    interaction.withResponse response =
      { interaction with
        response := (response.compile interaction.maxDepth).toOption
        failures :=
          interaction.failures ++ errorsOf (response.compile interaction.maxDepth) } := by
  rw [withResponse]
  cases response.compile interaction.maxDepth with
  | ok compiled => simp [errorsOf, Except.toOption]
  | error failure => simp [errorsOf, Except.toOption, ← fresh]

/-- The failures of the interaction, each with the field of its message. -/
def failedMessages (interaction : Interaction) : List (String × EncodingFailure) :=
  List.zip
    ((if interaction.request.isNone then ["request"] else []) ++
      if interaction.response.isNone then ["response"] else [])
    interaction.failures

end Interaction

/-- The finding is about a failure of a message of the interaction at the place. -/
def Finding.Reports (place : String) (finding : Finding) (failed : String × EncodingFailure) :
    Prop :=
  finding.problem = .notEncoded failed.2 ∧
    ∃ rest, finding.location = some (Location.field (Location.field place failed.1) rest)

/-- If elements can not be encoded, one of them fails. -/
theorem failingElement?_of_error {maxDepth : Nat} {elements : List AuthoredElement}
    {failure : EncodingFailure} (failed : encodeElements maxDepth elements = .error failure) :
    ∃ element, failingElement? maxDepth elements = some element := by
  induction elements with
  | nil => cases failed
  | cons authored rest inductionHypothesis =>
    obtain ⟨element, node⟩ := authored
    rw [failingElement?]
    rcases bind_eq_error.mp failed with failed | ⟨encoded, encodes, failed⟩
    · rw [failed]
      exact ⟨element, rfl⟩
    · rw [encodes]
      rcases bind_eq_error.mp failed with failed | ⟨others, _, failed⟩
      · exact inductionHypothesis failed
      · cases failed

namespace Description

theorem bareInteraction_eq (maxDepth : Nat) (description : String) (state : Option String)
    (states : List ProviderState) :
    bareInteraction maxDepth description state states =
      { description, providerState := state, providerStates := states, maxDepth } := by
  cases state <;> cases states <;> rfl

/-- The finding for the failure of a message. -/
def encodingFinding (place : String) (maxDepth : Nat) (elements : List AuthoredElement)
    (failure : EncodingFailure) : Finding :=
  .located (Location.encoded place (failingElement? maxDepth elements) failure.path)
    (.notEncoded failure)

theorem encodingFinding_reports {maxDepth : Nat} {elements : List AuthoredElement}
    {failure : EncodingFailure} (failed : encodeElements maxDepth elements = .error failure)
    (place name : String) :
    (encodingFinding (Location.field place name) maxDepth elements failure).Reports place
      (name, failure) := by
  obtain ⟨element, failing⟩ := failingElement?_of_error failed
  obtain ⟨rest, inside⟩ :=
    Location.encoded_eq_field (Location.field place name) element failure.path
  refine ⟨rfl, rest, ?_⟩
  rw [encodingFinding, failing, inside]
  rfl

/-- The interaction has each message that can be encoded, the failures of the others, and there is
a finding for each failure. -/
theorem attach_eq (place : String) (maxDepth : Nat) (description : String) (state : Option String)
    (states : List ProviderState) (request : Request) (response : Response) :
    attach place (bareInteraction maxDepth description state states) request response =
      { location := place
        interaction := some {
          description
          providerState := state
          providerStates := states
          request := (request.compile maxDepth).toOption
          response := (response.compile maxDepth).toOption
          failures :=
            errorsOf (request.compile maxDepth) ++ errorsOf (response.compile maxDepth)
          maxDepth }
        findings :=
          (errorsOf (request.compile maxDepth)).map
              (encodingFinding (Location.field place "request") maxDepth request.elements) ++
            (errorsOf (response.compile maxDepth)).map
              (encodingFinding (Location.field place "response") maxDepth response.elements) } := by
  rw [attach, bareInteraction_eq, Interaction.withRequest_eq _ rfl,
    Interaction.withResponse_eq _ rfl]
  simp only [encodingFindings, List.nil_append, List.length_nil, List.drop_zero, List.drop_left]
  rfl

theorem compile_request_eq_error {maxDepth : Nat} {request : Request} {failure : EncodingFailure}
    (failed : request.compile maxDepth = .error failure) :
    encodeElements maxDepth request.elements = .error failure := by
  rcases bind_eq_error.mp failed with failed | ⟨elements, _, failed⟩
  · exact failed
  · cases failed

theorem compile_response_eq_error {maxDepth : Nat} {response : Response}
    {failure : EncodingFailure} (failed : response.compile maxDepth = .error failure) :
    encodeElements maxDepth response.elements = .error failure := by
  rcases bind_eq_error.mp failed with failed | ⟨elements, _, failed⟩
  · exact failed
  · cases failed

/-- The findings about an interaction are its failures, those of the request first. -/
structure ReportsFailures (place : String) (interaction : Interaction) (findings : List Finding) :
    Prop where
  each : List.Forall₂ (Finding.Reports place) findings interaction.failedMessages
  all : interaction.failedMessages.map Prod.snd = interaction.failures
  few : interaction.failures.length ≤ 2

theorem ReportsFailures.of_mem {place : String} {interaction : Interaction}
    {findings : List Finding} (reports : ReportsFailures place interaction findings) :
    ∀ finding ∈ findings, ∃ failed, finding.Reports place failed :=
  ((List.forall₂_and_left _ _).mp
    (reports.each.imp fun _ failed own => ⟨⟨failed, own⟩, own⟩)).1

theorem attach_reportsFailures {place : String} {maxDepth : Nat} {description : String}
    {state : Option String} {states : List ProviderState} {request : Request}
    {response : Response} {interaction : Interaction}
    (attached : (attach place (bareInteraction maxDepth description state states) request
      response).interaction = some interaction) :
    ReportsFailures place interaction
      (attach place (bareInteraction maxDepth description state states) request
        response).findings := by
  rw [attach_eq] at attached ⊢
  obtain rfl := Option.some.inj attached
  have requestReports {failure : EncodingFailure}
      (failed : request.compile maxDepth = .error failure) :=
    encodingFinding_reports (compile_request_eq_error failed) place "request"
  have responseReports {failure : EncodingFailure}
      (failed : response.compile maxDepth = .error failure) :=
    encodingFinding_reports (compile_response_eq_error failed) place "response"
  cases requested : request.compile maxDepth with
  | ok compiledRequest =>
    cases answered : response.compile maxDepth with
    | ok compiledResponse => exact ⟨.nil, rfl, Nat.zero_le 2⟩
    | error failure => exact ⟨.cons (responseReports answered) .nil, rfl, Nat.le_succ 1⟩
  | error failure =>
    cases answered : response.compile maxDepth with
    | ok compiledResponse => exact ⟨.cons (requestReports requested) .nil, rfl, Nat.le_succ 1⟩
    | error other =>
      exact ⟨.cons (requestReports requested) (.cons (responseReports answered) .nil), rfl,
        Nat.le_refl 2⟩

/-! ### Items -/

/-- What the description of an interaction gives: the interaction with its messages attached, or
faults of shape. -/
inductive Gives (source : ExampleSource) (maxDepth : Nat) (place : String) (item : Json) :
    ItemReading → Prop where
  | attached {description : String} {states : List ProviderState} {first second : Json}
    {request : Request} {response : Response}
    (described : item.member? "description" = some (.string description))
    (stated : GivesStates item states)
    (requested : item.member? "request" = some first)
    (requestDescribed : DescribesRequest (source.part 0) first request)
    (answered : item.member? "response" = some second)
    (responseDescribed : DescribesResponse (source.part 1) second response) :
    Gives source maxDepth place item
      (attach place (bareInteraction maxDepth description
        ((item.member? "providerState").bind Json.text?) states) request response)
  | refused {findings : List Finding} (some : findings ≠ [])
    (faults : ∀ finding ∈ findings, finding.IsFaultAt place) :
    Gives source maxDepth place item { location := place, findings }

variable {source : ExampleSource} {maxDepth : Nat} {place : String} {item : Json}

theorem Gives.of_fault {problem : DescriptionProblem} (shape : problem.ConcernsShape) :
    Gives source maxDepth place item { location := place, findings := [.located place problem] } :=
  .refused (List.cons_ne_nil _ _)
    (List.forall_mem_singleton.mpr ⟨shape, place, rfl, Location.isWithin_refl place⟩)

theorem isFaultAt_of_mem_findingOf {α : Type} {read : Except Finding α}
    (faults : FaultsAt place read) : ∀ finding ∈ findingOf read, finding.IsFaultAt place := by
  cases read with
  | ok value => nofun
  | error fault => exact List.forall_mem_singleton.mpr (faults fault rfl)

theorem findingOf_eq_errorsOf {α : Type} (read : Except Finding α) :
    findingOf read = errorsOf read := by
  cases read <;> rfl

theorem interaction_gives (source : ExampleSource) (maxDepth : Nat) (place : String)
    (item : Json) : Gives source maxDepth place item (interaction source maxDepth place item) := by
  cases item with
  | object fields =>
    rw [interaction]
    cases described : (Keyed.find? "description" fields).bind Json.text? with
    | none => exact .of_fault trivial
    | some description =>
      dsimp only
      split
      · rename_i request response states requested answered stated
        obtain ⟨first, requestGiven, requestDescribed⟩ := request_eq_ok requested
        obtain ⟨second, responseGiven, responseDescribed⟩ := response_eq_ok answered
        exact .attached (Json.eq_string_of_bind_text? described) (providerStates_eq_ok stated)
          requestGiven requestDescribed responseGiven responseDescribed
      · rename_i incomplete
        refine .refused (fun clean => ?_) ?_
        · simp only [findingOf_eq_errorsOf, List.append_eq_nil_iff] at clean
          obtain ⟨request, requested⟩ := eq_ok_of_errorsOf_eq_nil clean.1.1
          obtain ⟨response, answered⟩ := eq_ok_of_errorsOf_eq_nil clean.1.2
          obtain ⟨states, stated⟩ := eq_ok_of_errorsOf_eq_nil clean.2
          exact incomplete request response states requested answered stated
        · rintro finding member
          rcases List.mem_append.mp member with member | member
          · rcases List.mem_append.mp member with member | member
            · exact isFaultAt_of_mem_findingOf (request_faultsAt _).of_field finding member
            · exact isFaultAt_of_mem_findingOf (response_faultsAt _).of_field finding member
          · exact isFaultAt_of_mem_findingOf providerStates_faultsAt finding member
  | _ => exact .of_fault trivial

namespace Gives

variable {reading : ItemReading} {interaction : Interaction} {finding : Finding}

theorem reportsFailures (gives : Gives source maxDepth place item reading)
    (pushed : reading.interaction = some interaction) :
    ReportsFailures place interaction reading.findings := by
  cases gives with
  | attached => exact attach_reportsFailures pushed
  | refused => cases pushed

theorem faults (gives : Gives source maxDepth place item reading)
    (refused : reading.interaction = none) :
    reading.findings ≠ [] ∧ ∀ finding ∈ reading.findings, finding.IsFaultAt place := by
  cases gives with
  | attached =>
    rw [attach_eq] at refused
    cases refused
  | refused some faults => exact ⟨some, faults⟩

/-- An interaction without failures is the one that the item describes. -/
theorem describes (gives : Gives source maxDepth place item reading)
    (pushed : reading.interaction = some interaction) (clean : interaction.failures = []) :
    Describes source maxDepth item interaction := by
  cases gives with
  | attached described stated requested requestDescribed answered responseDescribed =>
    rw [attach_eq] at pushed
    obtain rfl := Option.some.inj pushed
    obtain ⟨requestClean, responseClean⟩ := List.append_eq_nil_iff.mp clean
    obtain ⟨request, compiled⟩ := eq_ok_of_errorsOf_eq_nil requestClean
    obtain ⟨response, compiled'⟩ := eq_ok_of_errorsOf_eq_nil responseClean
    refine ⟨described, rfl, stated, ⟨_, _, request, requested, requestDescribed, compiled, ?_, ?_⟩,
      ⟨_, _, response, answered, responseDescribed, compiled', ?_, ?_⟩⟩
    · obtain ⟨elements, _, same⟩ := bind_eq_ok.mp compiled
      exact Except.ok.inj same ▸ rfl
    · simp only [compiled, Except.toOption]
    · obtain ⟨elements, _, same⟩ := bind_eq_ok.mp compiled'
      exact Except.ok.inj same ▸ rfl
    · simp only [compiled', Except.toOption]
  | refused => cases pushed

/-- Every finding about an item is an error within its place. -/
theorem severe_within (gives : Gives source maxDepth place item reading)
    (member : finding ∈ reading.findings) :
    finding.problem.severity = .error ∧
      ∃ inner, finding.location = some inner ∧ Location.isWithin place inner = true := by
  cases pushed : reading.interaction with
  | none =>
    have fault := (gives.faults pushed).2 finding member
    exact ⟨fault.shape.severity_eq, fault.within⟩
  | some interaction =>
    obtain ⟨failed, encoding, rest, located⟩ := (gives.reportsFailures pushed).of_mem finding member
    refine ⟨by rw [encoding]; rfl, _, located, ?_⟩
    exact Location.isWithin_of_field (Location.isWithin_field _ rest)

/-- An item about which nothing is found describes an interaction that can be encoded. -/
theorem describes_of_clean (gives : Gives source maxDepth place item reading)
    (clean : reading.findings = []) :
    ∃ interaction, reading.interaction = some interaction ∧ interaction.failures = [] ∧
      Describes source maxDepth item interaction := by
  cases pushed : reading.interaction with
  | none => exact absurd clean (gives.faults pushed).1
  | some interaction =>
    obtain ⟨each, all, _⟩ := gives.reportsFailures pushed
    rw [clean, List.forall₂_nil_left_iff] at each
    have encoded : interaction.failures = [] := by
      rw [← all, each]
      rfl
    exact ⟨interaction, rfl, encoded, gives.describes pushed encoded⟩

end Gives

end Description

end ConsumerContract
