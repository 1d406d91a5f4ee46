/-
This file says what becomes of the provider states that a description asks for. In a
description without errors every item has an interaction, and all states that are written
with the right types are in it: the one that is named, and those that are listed, each with
its parameters. Two types are not looked at. A state that is named by something else than a
text is left out, and so are parameters that are no object, in both cases without a finding;
everything else that is wrong with states is an error.
-/

import ConsumerContract.Proofs.Contracts
import ConsumerContract.Proofs.JsonTree
import ConsumerContract.Proofs.Keyed

namespace ConsumerContract

theorem Json.KeysOrdered.member? {value child : Json} {key : String} (ordered : value.KeysOrdered)
    (found : value.member? key = some child) : child.KeysOrdered := by
  cases value with
  | object members =>
    exact ordered.child (List.mem_map_of_mem (f := Prod.snd) (Keyed.mem_of_find? found))
  | _ => cases found

namespace Description

/-! ### What is asked for -/

/-- The state that is named, if any. Only a text names a state. -/
def namedState? : Option Json → Option (Option String)
  | none | some .null => some none
  | some (.string name) => some (some name)
  | some _ => none

/-- The parameters that are written, if any. Only an object has parameters. -/
def writtenParameters? : Option Json → Option (List (String × Json))
  | none | some .null => some []
  | some (.object members) => some members
  | some _ => none

/-- The state has the name of the entry and one parameter for each that is written: texts as they
are, and all other values as JSON. -/
structure KeepsEntry (entry : Json) (state : ProviderState) : Prop where
  name : entry.member? "name" = some (.string state.name)
  parameters : (writtenParameters? (entry.member? "params")).map
    (·.map fun (key, value) => (key, parameterText value)) = some state.parameters

/-- The interaction has the state that the item names. -/
def KeepsState (item : Json) (interaction : Interaction) : Prop :=
  namedState? (item.member? "providerState") = some interaction.providerState

/-- The interaction has the states that the item lists, in their order. -/
def KeepsStates (item : Json) (interaction : Interaction) : Prop :=
  match item.member? "providerStates" with
  | none => interaction.providerStates = []
  | some written => ∃ entries, written = .array entries ∧
      List.Forall₂ KeepsEntry entries interaction.providerStates

/-- The parameters of all listed states are objects, as far as there are any. -/
def GivesParameters (item : Json) : Prop :=
  ∀ entries, item.member? "providerStates" = some (.array entries) →
    ∀ entry ∈ entries, (writtenParameters? (entry.member? "params")).isSome = true

/-! ### What is kept -/

theorem namedState?_eq_text (written : Option Json) :
    namedState? written = some (written.bind Json.text?) ↔ (namedState? written).isSome = true := by
  rcases written with _ | (_ | _ | _ | _ | _ | _) <;> simp [namedState?, Json.text?]

/-- A listed state keeps its entry exactly if the parameters are those of an object. -/
theorem keepsEntry_iff {entry : Json} {state : ProviderState} (ordered : entry.KeysOrdered)
    (read : providerState? entry = some state) :
    KeepsEntry entry state ↔ (writtenParameters? (entry.member? "params")).isSome = true := by
  obtain ⟨name, named, rfl⟩ := Option.map_eq_some_iff.mp read
  have name := Json.eq_string_of_bind_text? named
  constructor
  · intro kept
    rw [← Option.isSome_map, kept.parameters]
    rfl
  · intro written
    refine ⟨name, ?_⟩
    cases found : entry.member? "params" with
    | none => rfl
    | some parameters =>
      rw [found] at written
      cases parameters with
      | null => rfl
      | object members =>
        have inOrder :
            Keyed.Ordered (members.map fun entry => (entry.1, parameterText entry.2)) := by
          rw [Keyed.Ordered, Keyed.keys_map]
          exact (Json.keysOrdered_object.mp (ordered.member? found)).1
        exact congrArg some (Keyed.ofList_of_ordered inOrder).symm
      | _ => cases written

/-- The states are those of the entries one by one. -/
theorem forall₂_providerState? {entries : List Json} {states : List ProviderState}
    (read : entries.mapM providerState? = some states) :
    List.Forall₂ (fun entry state => providerState? entry = some state) entries states := by
  induction entries generalizing states with
  | nil =>
    obtain rfl := Option.some.inj read
    exact .nil
  | cons entry rest inductionHypothesis =>
    rw [List.mapM_cons] at read
    obtain ⟨state, first, read⟩ := Option.bind_eq_some_iff.mp read
    obtain ⟨others, later, same⟩ := Option.bind_eq_some_iff.mp read
    obtain rfl := Option.some.inj same
    exact .cons first (inductionHypothesis later)

theorem keepsEntries_iff {entries : List Json} {states : List ProviderState}
    (ordered : ∀ entry ∈ entries, entry.KeysOrdered)
    (read : List.Forall₂ (fun entry state => providerState? entry = some state) entries states) :
    List.Forall₂ KeepsEntry entries states ↔
      ∀ entry ∈ entries, (writtenParameters? (entry.member? "params")).isSome = true := by
  induction read with
  | nil => exact iff_of_true .nil nofun
  | cons first _ inductionHypothesis =>
    obtain ⟨inOrder, others⟩ := List.forall_mem_cons.mp ordered
    rw [List.forall₂_cons, keepsEntry_iff inOrder first, inductionHypothesis others,
      List.forall_mem_cons]

theorem keepsStates_iff {item : Json} {interaction : Interaction} (ordered : item.KeysOrdered)
    (given : GivesStates item interaction.providerStates) :
    KeepsStates item interaction ↔ GivesParameters item := by
  rw [GivesStates] at given
  rw [KeepsStates, GivesParameters]
  cases found : item.member? "providerStates" with
  | none =>
    rw [found] at given
    refine iff_of_true given ?_
    rintro _ ⟨⟩
  | some written =>
    rw [found] at given
    obtain ⟨entries, rfl, read⟩ := given
    have kept := keepsEntries_iff (Json.keysOrdered_array.mp (ordered.member? found))
      (forall₂_providerState? read)
    constructor
    · rintro ⟨_, same, each⟩ _ same'
      cases same
      cases same'
      exact kept.mp each
    · exact fun all => ⟨entries, rfl, kept.mpr (all entries rfl)⟩

/-- A description about which no error is reported gives an interaction for each item. It keeps the
state that the item names exactly if that is a text, and the states that the item lists exactly if
their parameters are objects. -/
theorem contract_keepsStates_iff (source : ExampleSource) (options : CompileOptions)
    (file : String) (report : Report) (description : Json.Ordered)
    (clean : ∀ issue ∈ ((contract source options.maxDepth description.json).addTo file
      report).issues.drop report.issues.length, issue.severity ≠ .error) :
    ∃ pact : Pact, (contract source options.maxDepth description.json).pact = some pact ∧
      pact.interactions.length = (itemsOf description.json).length ∧
      ∀ (position : Nat) (item : Json), (itemsOf description.json)[position]? = some item →
        ∃ interaction, pact.interactions[position]? = some interaction ∧
          (KeepsState item interaction ↔
            (namedState? (item.member? "providerState")).isSome = true) ∧
          (KeepsStates item interaction ↔ GivesParameters item) := by
  rw [DescriptionReading.drop_issues_addTo] at clean
  have clean : (contract source options.maxDepth description.json).IsClean :=
    fun finding member => clean _ (List.mem_map_of_mem member)
  cases named : (contract source options.maxDepth description.json).pact with
  | none =>
    obtain ⟨finding, member, severe⟩ := error_of_no_pact named
    exact absurd severe (clean finding member)
  | some pact =>
    obtain ⟨length, places⟩ := getElem?_interactions_of_clean named clean
    refine ⟨pact, rfl, length, fun position item here => ?_⟩
    obtain ⟨interaction, placed, describes⟩ := places position item here
    have inOrder : item.KeysOrdered :=
      Json.keysOrdered_array.mp (description.ordered.member? (list_of_no_errors named clean)) item
        (List.mem_of_getElem? here)
    refine ⟨interaction, placed, ?_, keepsStates_iff inOrder describes.states⟩
    rw [KeepsState, describes.state]
    exact namedState?_eq_text _

/-- Parameters that are no texts are kept as JSON. -/
theorem contract_keepsStates_iff_of_users :
    let source : ExampleSource := ⟨fun _ => 0, default⟩
    let options : CompileOptions := {}
    let existing := Json.object [("name", .string "user exists"),
      ("params", .object [("id", .ofNat 7), ("name", .string "Joe"), ("tags", .array [.null])])]
    let item := Json.object [("description", .string "users"), ("providerState", .string "ready"),
      ("providerStates", .array [existing, .object [("name", .string "idle")]]),
      ("request", .object [("method", .string "get"), ("path", .string "/users")]),
      ("response", .object [("status", .ofNat 200)])]
    let description : Json.Ordered := ⟨.object [("consumer", .string "app"),
      ("interactions", .array [item]), ("provider", .string "api")], by decide +kernel⟩
    let after := (contract source options.maxDepth description.json).addTo "app.json" .empty
    (∀ issue ∈ after.issues.drop Report.empty.issues.length, issue.severity ≠ .error) ∧
      ∃ pact : Pact, (contract source options.maxDepth description.json).pact = some pact ∧
        ∃ interaction, pact.interactions[0]? = some interaction ∧
          KeepsState item interaction ∧ KeepsStates item interaction := by
  intro source options existing item description after
  have none : after.issues = [] := by decide +kernel
  have clean : ∀ issue ∈ after.issues.drop Report.empty.issues.length,
      issue.severity ≠ .error := by
    rw [none]
    nofun
  obtain ⟨pact, named, _, places⟩ :=
    contract_keepsStates_iff source options "app.json" .empty description clean
  obtain ⟨interaction, placed, state, states⟩ := places 0 item rfl
  refine ⟨clean, pact, named, interaction, placed, state.mpr rfl, states.mpr ?_⟩
  rintro _ same
  cases same
  exact List.forall_mem_cons.mpr ⟨rfl, List.forall_mem_singleton.mpr rfl⟩

/-- A number as the state and a list as parameters are dropped, and nothing is found. -/
theorem states_dropped_silently :
    let source : ExampleSource := ⟨fun _ => 0, default⟩
    let item := Json.object [("description", .string "users"), ("providerState", .ofNat 5),
      ("providerStates", .array [.object [("name", .string "ready"),
        ("params", .array [.string "id"])]]),
      ("request", .object [("method", .string "GET"), ("path", .string "/users")]),
      ("response", .object [("status", .ofNat 200)])]
    let description : Json.Ordered := ⟨.object [("consumer", .string "app"),
      ("interactions", .array [item]), ("provider", .string "api")], by decide +kernel⟩
    let reading := contract source Node.defaultMaxDepth description.json
    reading.findings = [] ∧
      ∃ pact interaction, reading.pact = some pact ∧ pact.interactions = [interaction] ∧
        interaction.providerState = none ∧ interaction.providerStates = [⟨"ready", []⟩] ∧
          ¬ KeepsState item interaction ∧ ¬ KeepsStates item interaction := by
  intro source item description reading
  refine ⟨by decide +kernel, _, _, rfl, rfl, rfl, rfl, nofun, ?_⟩
  rintro ⟨_, same, each⟩
  cases same
  cases (List.forall₂_cons.mp each).1.parameters

end Description

end ConsumerContract
