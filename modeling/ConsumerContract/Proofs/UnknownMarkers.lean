/-
This file proves that an unknown marker is never taken for data and never dropped.
The reader of markers turns it into an invalid node wherever it looks for nodes at
all: among the items of arrays, the members of objects that are no markers, the
values of markers and the variants of array-contains markers. Every marker around
it either keeps that node or is refused itself, so there is an invalid node in the
tree, and no tree with one can be encoded.
-/

import ConsumerContract.Proofs.Markers

namespace ConsumerContract

/-! ### Unknown kinds -/

namespace Marker

/-- There is a value under the key, and it is not the name of a listed kind. -/
def NamesUnknown (fields : MarkerFields) (key : String) (kinds : List String) : Prop :=
  ∃ value, Keyed.find? key fields = some value ∧ ∀ kind ∈ kinds, value ≠ .string kind

/-- The object has a matcher type or a generator type that is not known. -/
def IsUnknown (fields : MarkerFields) : Prop :=
  NamesUnknown fields matcherKey matcherKinds ∨ NamesUnknown fields generatorKey generatorKinds

variable {source : ExampleSource} {fields : MarkerFields} {sample : Option Node}
  {variants : Option (List Node)} {node : Node}

theorem not_namesUnknown_of_kind? {key kind : String} {kinds : List String}
    (named : kind? fields key = some kind) (known : kind ∈ kinds) :
    ¬ NamesUnknown fields key kinds := by
  rintro ⟨value, given, unknown⟩
  rw [kind?_eq_some.mp named] at given
  exact unknown kind known (Option.some.inj given).symm

theorem not_namesUnknown_of_absent {key : String} {kinds : List String}
    (absent : Keyed.contains key fields = false) : ¬ NamesUnknown fields key kinds := by
  rintro ⟨value, given, _⟩
  rw [Keyed.contains, given] at absent
  cases absent

theorem Repeats.exists_kind (repeats : Repeats fields) :
    ∃ kind ∈ matcherKinds, kind? fields matcherKey = some kind := by
  rcases repeats.2 with each | ⟨type, _⟩
  · exact ⟨_, by decide, each⟩
  · exact ⟨_, by decide, type⟩

/-- A marker that stands for a node has known kinds only. -/
theorem StandsFor.not_isUnknown (stands : StandsFor source fields sample variants node) :
    ¬ IsUnknown fields := by
  refine not_or.mpr ?_
  cases stands with
  | repetition repeats given fits =>
    obtain ⟨kind, known, named⟩ := repeats.exists_kind
    exact ⟨not_namesUnknown_of_kind? named known, not_namesUnknown_of_absent repeats.1⟩
  | arrayContains named alone given =>
    exact ⟨not_namesUnknown_of_kind? named (by decide), not_namesUnknown_of_absent alone⟩
  | statusCode named alone read usable =>
    exact ⟨not_namesUnknown_of_kind? named (by decide), not_namesUnknown_of_absent alone⟩
  | matcher named alone once declared given =>
    exact ⟨not_namesUnknown_of_kind? named (kind_mem_matcherKinds declared),
      not_namesUnknown_of_absent alone⟩
  | generator named alone declared given =>
    exact ⟨not_namesUnknown_of_absent alone,
      not_namesUnknown_of_kind? named (kind_mem_generatorKinds declared)⟩
  | composite named generates described declared given =>
    exact ⟨not_namesUnknown_of_kind? named (kind_mem_matcherKinds described),
      not_namesUnknown_of_kind? generates (kind_mem_generatorKinds declared)⟩
  | computed named alone declared absent made =>
    exact ⟨not_namesUnknown_of_absent alone,
      not_namesUnknown_of_kind? named (kind_mem_generatorKinds declared)⟩
  | computedComposite named generates described declared absent made =>
    exact ⟨not_namesUnknown_of_kind? named (kind_mem_matcherKinds described),
      not_namesUnknown_of_kind? generates (kind_mem_generatorKinds declared)⟩

theorem isMarker_of_isUnknown (unknown : IsUnknown fields) : isMarker fields = true := by
  rw [isMarker.eq_def, Bool.or_eq_true, Keyed.contains, Keyed.contains]
  rcases unknown with ⟨value, given, _⟩ | ⟨value, given, _⟩
  · exact Or.inl (by rw [given]; rfl)
  · exact Or.inr (by rw [given]; rfl)

end Marker

/-! ### Where the reader looks for nodes -/

/-- The positions of a value that the reader of markers turns into nodes. -/
inductive Json.Leads : Json → Json → Prop where
  | here (value : Json) : Leads value value
  | item {items : List Json} {item part : Json} (member : item ∈ items) (rest : Leads item part) :
    Leads (.array items) part
  | member {members : List (String × Json)} {key : String} {value part : Json}
    (plain : Marker.isMarker members = false) (member : (key, value) ∈ members)
    (rest : Leads value part) : Leads (.object members) part
  | value {fields : MarkerFields} {value part : Json} (marked : Marker.isMarker fields = true)
    (heeded : ¬ Marker.IgnoresValue fields) (given : Keyed.find? "value" fields = some value)
    (rest : Leads value part) : Leads (.object fields) part
  | variants {fields : MarkerFields} {variants part : Json}
    (named : Marker.kind? fields Marker.matcherKey = some "arrayContains")
    (given : Keyed.find? "variants" fields = some variants) (rest : Leads variants part) :
    Leads (.object fields) part

namespace Node

/-- An unknown marker leaves an invalid node in the tree, wherever the reader comes across it. -/
theorem not_valid_of_leads {value : Json} {fields : MarkerFields}
    (leads : value.Leads (.object fields)) (unknown : Marker.IsUnknown fields)
    (ordered : value.KeysOrdered) (source : ExampleSource) :
    ¬ (ofMarkedJson source value).Valid := by
  generalize found : Json.object fields = part at leads
  induction leads generalizing source with
  | here value =>
    subst found
    intro valid
    rcases standsFor_of_marker (Marker.isMarker_of_isUnknown unknown) with
      invalid | ⟨sample, variants, stands⟩
    · exact valid _ (.itself _) invalid
    · exact stands.not_isUnknown unknown
  | @item items item part member rest inductionHypothesis =>
    obtain ⟨inner, listed⟩ := @mem_ofMarkedItems source 0 items item member
    rw [ofMarkedJson]
    exact not_valid_of_child listed (inductionHypothesis (ordered.child member) inner found)
  | @member members key value part plain member rest inductionHypothesis =>
    obtain ⟨inner, listed⟩ := @mem_ofMarkedMembers source 0 members key value member
    rw [ofMarkedJson_object plain (ordered members (.itself _))]
    exact not_valid_of_child (List.mem_map_of_mem listed)
      (inductionHypothesis (ordered.child (List.mem_map_of_mem member)) inner found)
  | @value marker value part marked heeded given rest inductionHypothesis =>
    have below : value ∈ (Json.object marker).children :=
      List.mem_map_of_mem (Keyed.mem_of_find? given)
    intro valid
    rcases standsFor_of_marker marked with invalid | ⟨sample, variants, stands⟩
    · exact valid _ (.itself _) invalid
    · rw [given] at stands
      exact inductionHypothesis (ordered.child below) sample found
        (stands.shows.valid_of_sample heeded valid rfl)
  | @variants marker variants part named given rest inductionHypothesis =>
    have below : variants ∈ (Json.object marker).children :=
      List.mem_map_of_mem (Keyed.mem_of_find? given)
    intro valid
    rcases standsFor_of_marker (Marker.isMarker_of_kind? named) with
      invalid | ⟨sample, inner, stands⟩
    · exact valid _ (.itself _) invalid
    · rw [given] at stands
      obtain ⟨items, read, same⟩ := stands.shows.variants_eq named
      rw [same] at valid
      have shape : ofMarkedJson inner variants = .sequence items := sequenceItems?_eq_some.mp read
      refine inductionHypothesis (ordered.child below) inner found ?_
      rw [shape]
      exact valid_sequence_of_arrayContains valid

/-- A value with an unknown marker where the reader looks for nodes can not be encoded, for no
element and within no limit. -/
theorem encode_ofMarkedJson_unknown (value : Json.Ordered) (fields : MarkerFields)
    (leads : value.json.Leads (.object fields)) (unknown : Marker.IsUnknown fields)
    (source : ExampleSource) (element : Element) (maxDepth : Nat) :
    ∃ failure, (ofMarkedJson source value.json).encode element maxDepth = .error failure := by
  cases outcome : (ofMarkedJson source value.json).encode element maxDepth with
  | error failure => exact ⟨failure, rfl⟩
  | ok encoded =>
    exact absurd (valid_of_encode outcome) (not_valid_of_leads leads unknown value.ordered source)

/-- A misspelt generator in a variant, with an example that could be taken for the value. -/
theorem encode_ofMarkedJson_unknown_of_variant :
    let source : ExampleSource := ⟨fun _ => 0, default⟩
    let code := [("pact:generator:type", Json.string "RandomInteger"), ("value", .ofInt 3)]
    let links :=
      [("pact:matcher:type", Json.string "arrayContains"),
        ("variants", .array [.string "x", .object [("code", .object code)]])]
    let body : Json.Ordered := ⟨.object [("links", .object links)], by decide⟩
    body.json.Leads (.object code) ∧ Marker.IsUnknown code ∧
      ∃ failure, (ofMarkedJson source body.json).encode .header 9 = .error failure := by
  intro source code links body
  have leads : body.json.Leads (.object code) :=
    .member rfl List.mem_cons_self <| .variants rfl rfl <|
      .item (List.mem_cons_of_mem _ List.mem_cons_self) <| .member rfl List.mem_cons_self (.here _)
  have unknown : Marker.IsUnknown code :=
    Or.inr ⟨.string "RandomInteger", rfl, fun kind known same =>
      absurd (Json.string.inj same ▸ known) (by decide)⟩
  exact ⟨leads, unknown, encode_ofMarkedJson_unknown body code leads unknown source .header 9⟩

end Node

end ConsumerContract
