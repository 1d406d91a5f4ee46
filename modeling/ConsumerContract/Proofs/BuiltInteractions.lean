/-
This file says what interactions and pacts are made of. An interaction is built by calls, in any
order and any number. Each part of it is what the last call for that part has left, where a message
that could not be encoded leaves nothing; the failures are kept in the order of the calls. Which
limit holds for a message depends on the calls before it alone. So a pact has a document exactly if
no call on any of its interactions has failed, and otherwise all failures, in their order.

All of it follows from one equation for a single call, by induction on the calls from the last one.
-/

import Mathlib.Data.List.Induction
import ConsumerContract.Proofs.Described

namespace ConsumerContract

namespace Interaction

/-! ### Calls -/

/-- A call on an interaction that is being built. -/
inductive Call where
  | maxDepth (limit : Nat)
  | given (state : String)
  | givenStates (states : List ProviderState)
  | request (request : Request)
  | response (response : Response)

namespace Call

/-- The interaction after a call. -/
def apply (interaction : Interaction) : Call → Interaction
  | maxDepth limit => interaction.withMaxDepth limit
  | given state => interaction.given state
  | givenStates states => interaction.givenStates states
  | request authored => interaction.withRequest authored
  | response authored => interaction.withResponse authored

/-- The limit that a call sets. -/
def limit? : Call → Option Nat
  | maxDepth limit => some limit
  | _ => none

/-- The state that a call names. -/
def state? : Call → Option String
  | given state => some state
  | _ => none

/-- The states that a call gives with their parameters. -/
def states? : Call → Option (List ProviderState)
  | givenStates states => some states
  | _ => none

/-- The request that a call attaches, compiled within a limit. -/
def request? (limit : Nat) : Call → Option CompiledRequest
  | request authored => (authored.compile limit).toOption
  | _ => none

/-- The response that a call attaches, compiled within a limit. -/
def response? (limit : Nat) : Call → Option CompiledResponse
  | response authored => (authored.compile limit).toOption
  | _ => none

/-- The failure of a call whose message can not be encoded within a limit. -/
def failures (limit : Nat) : Call → List EncodingFailure
  | request authored => errorsOf (authored.compile limit)
  | response authored => errorsOf (authored.compile limit)
  | _ => []

/-- Everything that a call does. -/
theorem apply_eq (interaction : Interaction) (call : Call) :
    call.apply interaction =
      { interaction with
        providerState := call.state?.or interaction.providerState
        providerStates := call.states?.getD interaction.providerStates
        request := (call.request? interaction.maxDepth).or interaction.request
        response := (call.response? interaction.maxDepth).or interaction.response
        failures := interaction.failures ++ call.failures interaction.maxDepth
        maxDepth := call.limit?.getD interaction.maxDepth } := by
  cases call with
  | request authored =>
    rw [apply, withRequest, failures, request?]
    cases authored.compile interaction.maxDepth with
    | ok message =>
      rw [errorsOf, List.append_nil]
      rfl
    | error failure => rfl
  | response authored =>
    rw [apply, withResponse, failures, response?]
    cases authored.compile interaction.maxDepth with
    | ok message =>
      rw [errorsOf, List.append_nil]
      rfl
    | error failure => rfl
  | _ =>
    simp only [failures, List.append_nil]
    rfl

/-- A call that fails leaves all but the failures as it was. -/
theorem apply_of_fails {interaction : Interaction} {call : Call}
    (fails : call.failures interaction.maxDepth ≠ []) :
    call.apply interaction =
      { interaction with
        failures := interaction.failures ++ call.failures interaction.maxDepth } := by
  cases call with
  | request authored =>
    rw [failures] at fails ⊢
    rw [apply, withRequest]
    cases refused : authored.compile interaction.maxDepth with
    | ok message => rw [refused] at fails; exact absurd rfl fails
    | error failure => rfl
  | response authored =>
    rw [failures] at fails ⊢
    rw [apply, withResponse]
    cases refused : authored.compile interaction.maxDepth with
    | ok message => rw [refused] at fails; exact absurd rfl fails
    | error failure => rfl
  | _ => exact absurd rfl fails

end Call

/-! ### Sequences of calls -/

/-- The interaction that calls build, from a new one on. -/
def ofCalls (description : String) (calls : List Call) : Interaction :=
  calls.foldl Call.apply (new description)

/-- The limit after some calls: the one that was set last. -/
def limitAfter (calls : List Call) : Nat :=
  (calls.filterMap Call.limit?).getLast?.getD Node.defaultMaxDepth

/-- The calls, each with the limit that was set last before it. -/
def withLimits (calls : List Call) : List (Nat × Call) :=
  calls.mapIdx fun position call => (limitAfter (calls.take position), call)

/-- The failures of calls, in their order. -/
def failuresOf (calls : List Call) : List EncodingFailure :=
  (withLimits calls).flatMap fun (limit, call) => call.failures limit

/-- No call fails. -/
def EncodesAll (calls : List Call) : Prop :=
  ∀ earlier call later, calls = earlier ++ call :: later → call.failures (limitAfter earlier) = []

/-- What an interaction is after some calls. -/
structure IsBuiltBy (description : String) (calls : List Call) (interaction : Interaction) :
    Prop where
  description : interaction.description = description
  /-- The state that was named last. -/
  providerState : interaction.providerState = (calls.filterMap Call.state?).getLast?
  /-- The states that were given last. -/
  providerStates :
    interaction.providerStates = (calls.filterMap Call.states?).getLast?.getD []
  /-- The request that was compiled last. -/
  request : interaction.request =
    ((withLimits calls).filterMap fun (limit, call) => call.request? limit).getLast?
  /-- The response that was compiled last. -/
  response : interaction.response =
    ((withLimits calls).filterMap fun (limit, call) => call.response? limit).getLast?
  failures : interaction.failures = failuresOf calls
  maxDepth : interaction.maxDepth = limitAfter calls

section Calls

variable {α β : Type} {description : String} {calls : List Call} {call : Call}

/-- With one more item, the last choice is that of the item or the one before. -/
theorem getLast?_filterMap_concat (choose : α → Option β) (items : List α) (item : α) :
    ((items ++ [item]).filterMap choose).getLast? =
      (choose item).or (items.filterMap choose).getLast? := by
  rw [List.filterMap_append, List.getLast?_append]
  cases chosen : choose item with
  | none => rw [List.filterMap_cons_none chosen]; rfl
  | some value => rw [List.filterMap_cons_some chosen]; rfl

theorem ofCalls_concat (description : String) (calls : List Call) (call : Call) :
    ofCalls description (calls ++ [call]) = call.apply (ofCalls description calls) := by
  rw [ofCalls, List.foldl_concat]
  rfl

theorem limitAfter_concat (calls : List Call) (call : Call) :
    limitAfter (calls ++ [call]) = call.limit?.getD (limitAfter calls) := by
  rw [limitAfter, getLast?_filterMap_concat, Option.getD_or]
  rfl

/-- Calls that follow do not change the limits of the calls before. -/
theorem withLimits_concat (calls : List Call) (call : Call) :
    withLimits (calls ++ [call]) = withLimits calls ++ [(limitAfter calls, call)] := by
  rw [withLimits, withLimits, List.mapIdx_concat, List.take_left]
  refine congrArg (· ++ _) (List.mapIdx_eq_mapIdx_iff.mpr fun position inside => ?_)
  rw [List.take_append_of_le_length (Nat.le_of_lt inside)]

theorem failuresOf_concat (calls : List Call) (call : Call) :
    failuresOf (calls ++ [call]) = failuresOf calls ++ call.failures (limitAfter calls) := by
  rw [failuresOf, withLimits_concat, List.flatMap_append, List.flatMap_singleton]
  rfl

/-- One more call. -/
theorem IsBuiltBy.apply {interaction : Interaction}
    (built : interaction.IsBuiltBy description calls) (call : Call) :
    (call.apply interaction).IsBuiltBy description (calls ++ [call]) := by
  rw [call.apply_eq interaction, built.maxDepth]
  refine ⟨built.description, ?_, ?_, ?_, ?_, ?_, ?_⟩
  · rw [getLast?_filterMap_concat, built.providerState]
  · rw [getLast?_filterMap_concat, Option.getD_or, built.providerStates]
  · rw [withLimits_concat, getLast?_filterMap_concat, built.request]
  · rw [withLimits_concat, getLast?_filterMap_concat, built.response]
  · rw [failuresOf_concat, built.failures]
  · rw [limitAfter_concat]

theorem isBuiltBy_ofCalls (description : String) (calls : List Call) :
    (ofCalls description calls).IsBuiltBy description calls := by
  induction calls using List.reverseRecOn with
  | nil => exact ⟨rfl, rfl, rfl, rfl, rfl, rfl, rfl⟩
  | append_singleton calls call inductionHypothesis =>
    rw [ofCalls_concat]
    exact inductionHypothesis.apply call

theorem failuresOf_eq_nil : failuresOf calls = [] ↔ EncodesAll calls := by
  rw [failuresOf, withLimits, List.flatMap_eq_nil_iff, EncodesAll]
  constructor
  · rintro silent earlier call later rfl
    refine silent (limitAfter earlier, call) (List.mem_mapIdx.mpr ⟨earlier.length, by simp, ?_⟩)
    rw [List.take_left, List.getElem_append_right (Nat.le_refl _)]
    simp only [Nat.sub_self, List.getElem_cons_zero]
  · rintro encodes ⟨limit, call⟩ member
    obtain ⟨position, inside, same⟩ := List.mem_mapIdx.mp member
    obtain ⟨rfl, rfl⟩ := Prod.mk.inj same
    refine encodes _ _ (calls.drop (position + 1)) ?_
    rw [← List.drop_eq_getElem_cons inside, List.take_append_drop]

end Calls

end Interaction

/-! ### Pacts -/

/-- An interaction that is built by calls and then pushed. -/
structure InteractionScript where
  description : String
  calls : List Interaction.Call

namespace InteractionScript

/-- The interaction that the calls build. -/
def interaction (script : InteractionScript) : Interaction :=
  .ofCalls script.description script.calls

/-- The failures of the calls, under the description of the interaction. -/
def failures (script : InteractionScript) : List InteractionFailure :=
  (Interaction.failuresOf script.calls).map fun failure => ⟨script.description, failure⟩

theorem failures_eq_nil {script : InteractionScript} :
    script.failures = [] ↔ Interaction.EncodesAll script.calls := by
  rw [failures, List.map_eq_nil_iff, Interaction.failuresOf_eq_nil]

end InteractionScript

/-- A reporter that writes down what it is told. -/
def FailureReporter.recorder : FailureReporter (StateM (List (String × Option String))) :=
  fun message place => modify (· ++ [(message, place)])

/-- What is written down about failures: each of them with the path that it is about. -/
def FailureReporter.recorded (failures : List InteractionFailure) : List (String × Option String) :=
  failures.map fun failure => failure.located.map id some

namespace Pact

open FailureReporter (recorder recorded)

/-- The pact with interactions that are pushed one after the other. -/
def ofScripts (consumer provider : String) (scripts : List InteractionScript) : Pact :=
  scripts.foldl (fun pact script => pact.push script.interaction) { consumer, provider }

section Scripts

variable (consumer provider : String) (scripts : List InteractionScript)

theorem ofScripts_eq :
    ofScripts consumer provider scripts =
      ⟨consumer, provider, scripts.map InteractionScript.interaction⟩ := by
  induction scripts using List.reverseRecOn with
  | nil => rfl
  | append_singleton scripts script inductionHypothesis =>
    rw [ofScripts] at inductionHypothesis ⊢
    rw [List.foldl_concat, inductionHypothesis, push, List.map_append]
    rfl

theorem failures_ofScripts :
    (ofScripts consumer provider scripts).failures =
      scripts.flatMap InteractionScript.failures := by
  rw [ofScripts_eq, failures, List.flatMap_map]
  refine congrArg (List.flatMap · scripts) (funext fun script => ?_)
  have built := Interaction.isBuiltBy_ofCalls script.description script.calls
  rw [InteractionScript.interaction, built.description, built.failures]
  rfl

theorem failures_ofScripts_eq_nil :
    (ofScripts consumer provider scripts).failures = [] ↔
      ∀ script ∈ scripts, Interaction.EncodesAll script.calls := by
  rw [failures_ofScripts, List.flatMap_eq_nil_iff]
  exact forall₂_congr fun script _ => script.failures_eq_nil

end Scripts

theorem document_of_failures {pact : Pact} (failed : pact.failures ≠ []) :
    pact.document = .error pact.failures := by
  rw [document]
  cases found : pact.failures with
  | nil => exact absurd found failed
  | cons first rest => rfl

/-- Every failure is told once, in order. -/
theorem run_reportFailures (pact : Pact) (told : List (String × Option String)) :
    pact.reportFailures recorder told =
      (pact.failures.length, told ++ recorded pact.failures) := by
  have each (failures : List InteractionFailure) (told : List (String × Option String)) :
      (failures.forM fun failure => recorder failure.located.1 (some failure.located.2)) told =
        ((), told ++ recorded failures) := by
    induction failures generalizing told with
    | nil => exact Prod.ext rfl (List.append_nil told).symm
    | cons failure rest inductionHypothesis =>
      rw [recorded, List.map_cons, List.append_cons]
      exact inductionHypothesis _
  exact congrArg (Prod.mk pact.failures.length) (Prod.mk.inj (each pact.failures told)).2

/-- Calls and pushes keep everything that was encoded and every failure. After any calls an
interaction has the last request and the last response that could be compiled, each within the
limit that was set last before it, and the failures of all others in their order; a call that fails
changes nothing else. A pact of such interactions has a document exactly if no call has failed, and
then it lists all of them in the order of the pushes. Otherwise there are exactly the failures, by
push and by call, and this is also what is reported. -/
theorem document_ofScripts (consumer provider : String) (scripts : List InteractionScript) :
    let pact := ofScripts consumer provider scripts
    let failures := scripts.flatMap InteractionScript.failures
    (∀ description calls,
      (Interaction.ofCalls description calls).IsBuiltBy description calls) ∧
    (∀ description calls call, call.failures (Interaction.limitAfter calls) ≠ [] →
      Interaction.ofCalls description (calls ++ [call]) =
        { Interaction.ofCalls description calls with
          failures := (Interaction.ofCalls description calls).failures ++
            call.failures (Interaction.limitAfter calls) }) ∧
    ((∀ script ∈ scripts, Interaction.EncodesAll script.calls) →
      pact.document = .ok ⟨consumer, provider, scripts.map InteractionScript.interaction⟩) ∧
    (¬ (∀ script ∈ scripts, Interaction.EncodesAll script.calls) →
      pact.document = .error failures) ∧
    ∀ told, pact.reportFailures recorder told =
      (failures.length, told ++ recorded failures) := by
  intro pact failures
  have found : pact.failures = failures := failures_ofScripts consumer provider scripts
  have silent := failures_ofScripts_eq_nil consumer provider scripts
  refine ⟨Interaction.isBuiltBy_ofCalls, fun description calls call fails => ?_, fun encodes => ?_,
    fun fails => ?_, fun told => ?_⟩
  · have built := Interaction.isBuiltBy_ofCalls description calls
    rw [← built.maxDepth] at fails ⊢
    rw [Interaction.ofCalls_concat, Interaction.Call.apply_of_fails fails]
  · have none : pact.failures = [] := silent.mpr encodes
    have pushed : pact = _ := ofScripts_eq consumer provider scripts
    rw [document, none, pushed]
  · rw [← found]
    exact document_of_failures fun none => fails (silent.mp none)
  · rw [run_reportFailures, found]

/-- One request fails and is then repaired, the other one is good and is then spoiled. -/
theorem document_ofScripts_of_users :
    let authored (path : Node) : Interaction.Call := .request { method := .get, path }
    let deep := authored (.sequence [.string "/users"])
    let date := authored (.notEncodable "date")
    let repaired : InteractionScript := ⟨"users", [.maxDepth 0, deep, .maxDepth 1, deep]⟩
    let spoiled : InteractionScript := ⟨"dates", [deep, date]⟩
    let clean : InteractionScript := ⟨"dates", [deep]⟩
    let tooDeep : InteractionFailure :=
      ⟨"users", .depthExceeded 0, (Node.string "/users").describe, .empty⟩
    let noDate : InteractionFailure := ⟨"dates", .notEncodable, "date", .empty⟩
    (ofScripts "app" "api" [repaired, spoiled]).document = .error [tooDeep, noDate] ∧
      ((ofScripts "app" "api" [repaired, spoiled]).reportFailures recorder []).1 = 2 ∧
      spoiled.interaction = { clean.interaction with failures := [noDate.failure] } ∧
      (ofScripts "app" "api" [clean]).document = .ok ⟨"app", "api", [clean.interaction]⟩ := by
  intro authored deep date repaired spoiled clean tooDeep noDate
  have failed : [repaired, spoiled].flatMap InteractionScript.failures = [tooDeep, noDate] := rfl
  have encodes : ∀ script ∈ [clean], Interaction.EncodesAll script.calls :=
    List.forall_mem_singleton.mpr (Interaction.failuresOf_eq_nil.mp (by decide +kernel))
  have fails : ¬ ∀ script ∈ [repaired, spoiled], Interaction.EncodesAll script.calls := by
    rw [← failures_ofScripts_eq_nil "app" "api", failures_ofScripts, failed]
    exact List.cons_ne_nil _ _
  have refused : date.failures (Interaction.limitAfter [deep]) = [noDate.failure] := by
    decide +kernel
  obtain ⟨_, kept, _, refusal, reported⟩ := document_ofScripts "app" "api" [repaired, spoiled]
  obtain ⟨_, _, complete, _⟩ := document_ofScripts "app" "api" [clean]
  refine ⟨?_, ?_, ?_, complete encodes⟩
  · rw [refusal fails, failed]
  · rw [reported, failed]
    rfl
  · have step := kept "dates" [deep] date (by rw [refused]; exact List.cons_ne_nil _ _)
    rw [refused] at step
    exact step

end Pact

end ConsumerContract
