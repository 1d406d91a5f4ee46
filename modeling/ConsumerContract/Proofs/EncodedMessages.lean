/-
This file says what requests and responses are compiled to. A message is the product of its
elements: it can be compiled exactly if each of them can be encoded, and what is written of
an element is what encoding this element alone gives, whatever the others are. If some of
them fail, the failure is that of the first one.

A failure that is kept does not say which element it is from; the elements are encoded
again to find that out. Both passes go through the same elements in the same order, so the
second one stops where the first one did, and the place that is reported is in the field of
the element that failed.
-/

import Mathlib.Data.List.Induction
import Mathlib.Data.List.Nodup
import ConsumerContract.Proofs.Described

namespace ConsumerContract

/-! ### Elements that are encoded one by one -/

/-- The element of a message can be encoded. -/
def AuthoredElement.Encodes (maxDepth : Nat) (authored : AuthoredElement) : Prop :=
  ∃ encoded, authored.2.encode authored.1 maxDepth = .ok encoded

/-- The elements in front of this one can be encoded, and this one fails. -/
def FailsFirst (maxDepth : Nat) (elements : List AuthoredElement) (element : Element)
    (failure : EncodingFailure) : Prop :=
  ∃ earlier node later, elements = earlier ++ (element, node) :: later ∧
    (∀ authored ∈ earlier, AuthoredElement.Encodes maxDepth authored) ∧
      node.encode element maxDepth = .error failure

/-- This is what encoding an element of the message alone gives. -/
def IsEncodedAlone (maxDepth : Nat) (elements : List AuthoredElement)
    (encoded : EncodedElement) : Prop :=
  ∃ node, (encoded.element, node) ∈ elements ∧
    node.encode encoded.element maxDepth = .ok encoded

section Elements

variable {maxDepth : Nat} {elements : List AuthoredElement} {element : Element}
  {failure : EncodingFailure}

theorem Node.element_of_encode {node : Node} {encoded : EncodedElement}
    (success : node.encode element maxDepth = .ok encoded) : encoded.element = element := by
  obtain ⟨compiled, _, same⟩ := bind_eq_ok.mp success
  exact (congrArg EncodedElement.element (Except.ok.inj same)).symm

/-- The encoded elements are those of the message one by one. -/
theorem encodeElements_eq_ok {encoded : List EncodedElement} :
    encodeElements maxDepth elements = .ok encoded ↔
      List.Forall₂ (fun authored encoded => authored.2.encode authored.1 maxDepth = .ok encoded)
        elements encoded := by
  induction elements generalizing encoded with
  | nil =>
    rw [encodeElements, Except.ok.injEq, List.forall₂_nil_left_iff]
    exact eq_comm
  | cons authored rest inductionHypothesis =>
    rw [encodeElements, List.forall₂_cons_left_iff]
    simp only [bind_eq_ok, inductionHypothesis]
    constructor
    · rintro ⟨first, encodes, others, each, same⟩
      exact ⟨first, others, encodes, each, (Except.ok.inj same).symm⟩
    · rintro ⟨first, others, encodes, each, rfl⟩
      exact ⟨first, encodes, others, each, rfl⟩

theorem FailsFirst.cons {authored : AuthoredElement} (encodes : authored.Encodes maxDepth)
    (fails : FailsFirst maxDepth elements element failure) :
    FailsFirst maxDepth (authored :: elements) element failure := by
  obtain ⟨earlier, node, later, rfl, before, failed⟩ := fails
  exact ⟨authored :: earlier, node, later, rfl, List.forall_mem_cons.mpr ⟨encodes, before⟩, failed⟩

/-- The failure of a message is that of the first element that fails. -/
theorem exists_failsFirst (failed : encodeElements maxDepth elements = .error failure) :
    ∃ element, FailsFirst maxDepth elements element failure := by
  induction elements with
  | nil => cases failed
  | cons authored rest inductionHypothesis =>
    rcases bind_eq_error.mp failed with failed | ⟨encoded, encodes, failed⟩
    · exact ⟨authored.1, [], authored.2, rest, rfl, nofun, failed⟩
    · rcases bind_eq_error.mp failed with failed | ⟨others, _, failed⟩
      · obtain ⟨element, fails⟩ := inductionHypothesis failed
        exact ⟨element, fails.cons ⟨encoded, encodes⟩⟩
      · cases failed

/-- The element that is found afterwards is the one that failed. -/
theorem FailsFirst.failingElement?_eq (fails : FailsFirst maxDepth elements element failure) :
    failingElement? maxDepth elements = some element := by
  obtain ⟨earlier, node, later, rfl, before, failed⟩ := fails
  induction earlier with
  | nil => rw [List.nil_append, failingElement?, failed]
  | cons authored rest inductionHypothesis =>
    obtain ⟨⟨encoded, encodes⟩, others⟩ := List.forall_mem_cons.mp before
    rw [List.cons_append, failingElement?, encodes]
    exact inductionHypothesis others

theorem FailsFirst.not_encodes (fails : FailsFirst maxDepth elements element failure) :
    ¬ ∀ authored ∈ elements, AuthoredElement.Encodes maxDepth authored := by
  obtain ⟨earlier, node, later, rfl, _, failed⟩ := fails
  intro all
  obtain ⟨encoded, encodes⟩ := all (element, node)
    (List.mem_append_right _ List.mem_cons_self)
  cases failed.symm.trans encodes

/-- A message can be compiled exactly if all its elements can be encoded. -/
theorem exists_encodeElements_iff :
    (∃ encoded, encodeElements maxDepth elements = .ok encoded) ↔
      ∀ authored ∈ elements, AuthoredElement.Encodes maxDepth authored := by
  cases outcome : encodeElements maxDepth elements with
  | ok encoded =>
    refine iff_of_true ⟨encoded, rfl⟩ fun authored member => ?_
    have each := encodeElements_eq_ok.mp outcome
    exact ((List.forall₂_and_left _ _).mp
      (each.imp fun authored encoded encodes => ⟨⟨encoded, encodes⟩, encodes⟩)).1 authored member
  | error failure =>
    obtain ⟨element, fails⟩ := exists_failsFirst outcome
    exact iff_of_false nofun fails.not_encodes

theorem isEncodedAlone_cons {authored : AuthoredElement} {rest : List AuthoredElement}
    {encoded : EncodedElement} :
    IsEncodedAlone maxDepth (authored :: rest) encoded ↔
      authored.2.encode authored.1 maxDepth = .ok encoded ∨
        IsEncodedAlone maxDepth rest encoded := by
  constructor
  · rintro ⟨node, member, success⟩
    rcases List.mem_cons.mp member with rfl | member
    · exact Or.inl success
    · exact Or.inr ⟨node, member, success⟩
  · rintro (success | ⟨node, member, success⟩)
    · have same := Node.element_of_encode success
      exact ⟨authored.2, same ▸ List.mem_cons_self, same ▸ success⟩
    · exact ⟨node, List.mem_cons_of_mem _ member, success⟩

theorem mem_iff_isEncodedAlone {encoded : List EncodedElement}
    (success : encodeElements maxDepth elements = .ok encoded) {found : EncodedElement} :
    found ∈ encoded ↔ IsEncodedAlone maxDepth elements found := by
  induction encodeElements_eq_ok.mp success with
  | nil => exact iff_of_false nofun fun ⟨_, member, _⟩ => nomatch member
  | cons encodes each inductionHypothesis =>
    rw [isEncodedAlone_cons, encodes, Except.ok.injEq, List.mem_cons,
      inductionHypothesis (encodeElements_eq_ok.mpr each)]
    exact or_congr_left eq_comm

theorem map_element_of_encodeElements {encoded : List EncodedElement}
    (success : encodeElements maxDepth elements = .ok encoded) :
    encoded.map (·.element) = elements.map Prod.fst := by
  induction encodeElements_eq_ok.mp success with
  | nil => rfl
  | cons encodes each inductionHypothesis =>
    rw [List.map_cons, List.map_cons, Node.element_of_encode encodes,
      inductionHypothesis (encodeElements_eq_ok.mpr each)]

end Elements

/-! ### Written messages -/

/-- What is chosen of the element, when it is encoded alone, is written like this. -/
def GivesAlone (maxDepth : Nat) (elements : List AuthoredElement)
    (choose : EncodedElement → Option Json) (element : Element) (written : Json) : Prop :=
  ∃ encoded, IsEncodedAlone maxDepth elements encoded ∧ encoded.element = element ∧
    choose encoded = some written

/-- A section of a message has an entry for each element that gives something, under the name of
the element, and it is left out exactly if there is none. -/
structure IsSectionOf (gives : Element → Json → Prop) (written : Option Json) : Prop where
  absent : written = none ↔ ∀ element value, ¬ gives element value
  entries : ∀ value, written = some value → ∃ entries, value = .object entries ∧
    (Keyed.keys entries).Nodup ∧
      ∀ key value, (key, value) ∈ entries ↔
        ∃ element : Element, key = element.name ∧ gives element value

/-- The rules of an encoded element as they are written. -/
def EncodedElement.rulesJson (encoded : EncodedElement) : Option Json :=
  encoded.rules.map (·.toJson RuleSet.toJson)

/-- The generators of an encoded element as they are written. -/
def EncodedElement.generatorsJson (encoded : EncodedElement) : Option Json :=
  encoded.generators.map (·.toJson Generator.toJson)

/-- All that a message has of its elements is what each of them gives alone. -/
structure IsProductOf (maxDepth : Nat) (elements : List AuthoredElement) (message : Json) :
    Prop where
  value : ∀ element value, message.member? (Location.elementField element) = some value ↔
    GivesAlone maxDepth elements (fun encoded => some encoded.value) element value
  rules : IsSectionOf (GivesAlone maxDepth elements EncodedElement.rulesJson)
    (message.member? "matchingRules")
  generators : IsSectionOf (GivesAlone maxDepth elements EncodedElement.generatorsJson)
    (message.member? "generators")

/-! ### Collected elements -/

theorem Element.mem_all (element : Element) : element ∈ Element.all := by
  cases element <;> decide

theorem Element.eq_of_name {element other : Element} (same : element.name = other.name) :
    element = other := by
  cases element <;> cases other <;> first | rfl | exact absurd same (by decide)

namespace ElementMap

variable {α : Type}

theorem find?_insert (map : ElementMap α) (element other : Element) (value : α) :
    (map.insert element value).find? other =
      if other = element then some value else map.find? other := by
  cases element <;> cases other <;> rfl

theorem mem_entries {map : ElementMap α} {element : Element} {value : α} :
    (element, value) ∈ map.entries ↔ map.find? element = some value := by
  rw [entries, List.mem_filterMap]
  constructor
  · rintro ⟨other, _, named⟩
    obtain ⟨found, here, same⟩ := Option.map_eq_some_iff.mp named
    obtain ⟨rfl, rfl⟩ := Prod.mk.inj same
    exact here
  · intro here
    exact ⟨element, element.mem_all, by rw [here]; rfl⟩

theorem nonEmpty?_eq_none {map : ElementMap α} :
    map.nonEmpty? = none ↔ ∀ element, map.find? element = none := by
  rw [nonEmpty?, ite_eq_left_iff, List.isEmpty_iff, List.eq_nil_iff_forall_not_mem]
  constructor
  · intro empty element
    refine Option.eq_none_iff_forall_ne_some.mpr fun value here => ?_
    by_contra filled
    cases empty fun none => none (element, value) (mem_entries.mpr here)
  · intro none full
    refine absurd (fun entry member => ?_) full
    cases (none entry.1).symm.trans (mem_entries.mp member)

theorem nodup_entries (map : ElementMap α) : (map.entries.map Prod.fst).Nodup := by
  have once : Element.all.Nodup := by decide
  rw [entries, List.map_filterMap]
  refine once.filterMap fun element other name first second => ?_
  simp only [Option.map_map, Option.mem_def, Option.map_eq_some_iff, Function.comp_apply]
    at first second
  obtain ⟨_, _, rfl⟩ := first
  obtain ⟨_, _, rfl⟩ := second
  rfl

/-- What is chosen of some elements, added one after the other. -/
def collect (choose : EncodedElement → Option α) (encoded : List EncodedElement) : ElementMap α :=
  encoded.foldl (fun map one => map.insert? one.element (choose one)) {}

/-- With at most one value for an element, the order in which they are added does not matter. -/
theorem find?_collect (choose : EncodedElement → Option α) {encoded : List EncodedElement}
    (distinct : (encoded.map (·.element)).Nodup) {element : Element} {value : α} :
    (collect choose encoded).find? element = some value ↔
      ∃ found ∈ encoded, found.element = element ∧ choose found = some value := by
  rw [collect]
  induction encoded using List.reverseRecOn with
  | nil =>
    refine iff_of_false (by cases element <;> nofun) fun ⟨_, member, _⟩ => ?_
    exact absurd member List.not_mem_nil
  | append_singleton front last inductionHypothesis =>
    rw [List.map_append, List.nodup_append] at distinct
    obtain ⟨before, -, apart⟩ := distinct
    specialize inductionHypothesis before
    simp only [List.foldl_append, List.foldl_cons, List.foldl_nil, List.mem_append,
      List.mem_singleton, or_and_right, exists_or, exists_eq_left]
    rw [← inductionHypothesis]
    cases chosen : choose last with
    | none => exact (or_iff_left nofun).symm
    | some added =>
      rw [insert?, find?_insert]
      by_cases here : last.element = element
      · rw [if_pos here.symm, or_iff_right]
        · exact (and_iff_right here).symm
        · rw [inductionHypothesis]
          rintro ⟨found, member, same, -⟩
          exact apart _ (List.mem_map_of_mem member) _ List.mem_cons_self (same.trans here.symm)
      · rw [if_neg (Ne.symm here)]
        exact (or_iff_left fun found => here found.1).symm

end ElementMap

section Written

variable {maxDepth : Nat} {elements : List AuthoredElement} {encoded : List EncodedElement}

namespace Assembled

theorem values_ofElements (encoded : List EncodedElement) :
    (ofElements encoded).values = .collect (fun one => some one.value) encoded :=
  (List.foldl_hom Assembled.values fun _ _ => rfl).symm

theorem rules_ofElements (encoded : List EncodedElement) :
    (ofElements encoded).rules = .collect (·.rules) encoded :=
  (List.foldl_hom Assembled.rules fun _ _ => rfl).symm

theorem generators_ofElements (encoded : List EncodedElement) :
    (ofElements encoded).generators = .collect (·.generators) encoded :=
  (List.foldl_hom Assembled.generators fun _ _ => rfl).symm

end Assembled

/-- What is collected of the elements of a message is what each of them gives alone. -/
theorem givesAlone_iff {α : Type} (distinct : (elements.map Prod.fst).Nodup)
    (success : encodeElements maxDepth elements = .ok encoded)
    (choose : EncodedElement → Option α) (write : α → Json) (element : Element) (written : Json) :
    GivesAlone maxDepth elements (fun encoded => (choose encoded).map write) element written ↔
      ((ElementMap.collect choose encoded).find? element).map write = some written := by
  rw [← map_element_of_encodeElements success] at distinct
  simp only [GivesAlone, Option.map_eq_some_iff, ElementMap.find?_collect choose distinct,
    mem_iff_isEncodedAlone success]
  constructor
  · rintro ⟨found, alone, here, value, chosen, same⟩
    exact ⟨value, ⟨found, alone, here, chosen⟩, same⟩
  · rintro ⟨value, ⟨found, alone, here, chosen⟩, same⟩
    exact ⟨found, alone, here, value, chosen, same⟩

theorem givesAlone_value_iff (distinct : (elements.map Prod.fst).Nodup)
    (success : encodeElements maxDepth elements = .ok encoded) (element : Element)
    (written : Json) :
    GivesAlone maxDepth elements (fun encoded => some encoded.value) element written ↔
      (Assembled.ofElements encoded).values.find? element = some written := by
  have alone := givesAlone_iff distinct success (fun one => some one.value) id element written
  rwa [Option.map_id, ← Assembled.values_ofElements] at alone

/-- A map that has what is given makes a section of it. -/
theorem isSectionOf_toJson {α : Type} {gives : Element → Json → Prop} {map : ElementMap α}
    {write : α → Json}
    (same : ∀ element value, gives element value ↔ (map.find? element).map write = some value) :
    IsSectionOf gives (map.nonEmpty?.map (ElementMap.toJson write)) where
  absent := by
    rw [Option.map_eq_none_iff, ElementMap.nonEmpty?_eq_none]
    refine forall_congr' fun element => ?_
    simp only [same, ← Option.eq_none_iff_forall_ne_some, Option.map_eq_none_iff]
  entries := by
    intro value written
    obtain ⟨_, full, rfl⟩ := Option.map_eq_some_iff.mp written
    rw [ElementMap.nonEmpty?] at full
    split at full
    · cases full
    obtain rfl := Option.some.inj full
    refine ⟨_, rfl, ?_, fun key value => ?_⟩
    · have apart : Function.Injective Element.name := fun _ _ => Element.eq_of_name
      have named := map.nodup_entries.map apart
      rw [List.map_map] at named
      rw [Keyed.keys, List.map_map]
      exact named
    · simp only [List.mem_map, same, Option.map_eq_some_iff, ← ElementMap.mem_entries]
      constructor
      · rintro ⟨⟨element, found⟩, member, pair⟩
        obtain ⟨rfl, rfl⟩ := Prod.mk.inj pair
        exact ⟨element, rfl, found, member, rfl⟩
      · rintro ⟨element, rfl, found, member, rfl⟩
        exact ⟨(element, found), member, rfl⟩

/-! ### Fields of written messages -/

theorem Json.find?_optionalMember (key other : String) (value : Option Json) :
    Keyed.find? key (Json.optionalMember other value) = if key = other then value else none := by
  cases value with
  | none => exact (ite_self none).symm
  | some value => rfl

/-- Whatever has these fields is the product of its elements. -/
theorem isProductOf_of_fields (distinct : (elements.map Prod.fst).Nodup)
    (success : encodeElements maxDepth elements = .ok encoded) {message : Json}
    (values : ∀ element, message.member? (Location.elementField element) =
      (Assembled.ofElements encoded).values.find? element)
    (rules : message.member? "matchingRules" = (Assembled.ofElements encoded).rules.nonEmpty?.map
      (ElementMap.toJson (·.toJson RuleSet.toJson)))
    (generators : message.member? "generators" =
      (Assembled.ofElements encoded).generators.nonEmpty?.map
        (ElementMap.toJson (·.toJson Generator.toJson))) :
    IsProductOf maxDepth elements message where
  value element value := by
    rw [values, givesAlone_value_iff distinct success]
  rules := by
    rw [rules, Assembled.rules_ofElements]
    exact isSectionOf_toJson (givesAlone_iff distinct success _ _)
  generators := by
    rw [generators, Assembled.generators_ofElements]
    exact isSectionOf_toJson (givesAlone_iff distinct success _ _)

/-- The members of a message have its fields. -/
structure HasFields (message : Json) (path query headers body : Option Json)
    (rules : Option (ElementMap (Declarations RuleSet)))
    (generators : Option (ElementMap (Declarations Generator))) : Prop where
  path : message.member? "path" = path
  query : message.member? "query" = query
  headers : message.member? "headers" = headers
  body : message.member? "body" = body
  rules : message.member? "matchingRules" =
    rules.map (ElementMap.toJson (·.toJson RuleSet.toJson))
  generators : message.member? "generators" =
    generators.map (ElementMap.toJson (·.toJson Generator.toJson))

theorem CompiledRequest.hasFields_toJson (request : CompiledRequest) :
    HasFields request.toJson request.path request.query request.headers request.body
      request.matchingRules request.generators := by
  constructor <;>
    simp [toJson, messageMembers, Json.member?, Keyed.find?, Keyed.find?_append,
      Json.find?_optionalMember]

theorem CompiledResponse.hasFields_toJson (response : CompiledResponse) :
    HasFields response.toJson none none response.headers response.body response.matchingRules
      response.generators := by
  constructor <;>
    simp [toJson, messageMembers, Json.member?, Keyed.find?, Keyed.find?_append,
      Json.find?_optionalMember]

end Written

/-! ### Requests and responses -/

theorem Request.nodup_elements (request : Request) : (request.elements.map Prod.fst).Nodup := by
  rw [Request.elements]
  cases request.query <;> cases request.headers <;> cases request.body <;>
    simp [queryElement, headerElement, bodyElement]

theorem Response.nodup_elements (response : Response) :
    (response.elements.map Prod.fst).Nodup := by
  rw [Response.elements]
  cases response.headers <;> cases response.body <;> simp [headerElement, bodyElement]

/-- A request always has a path. -/
theorem Request.exists_path {request : Request} {maxDepth : Nat} {encoded : List EncodedElement}
    (success : encodeElements maxDepth request.elements = .ok encoded) :
    ∃ path, (Assembled.ofElements encoded).values.find? .path = some path := by
  have member : (Element.path, request.path) ∈ request.elements := List.mem_cons_self
  obtain ⟨path, encodes⟩ := exists_encodeElements_iff.mp ⟨encoded, success⟩ _ member
  have kind : path.element = .path := Node.element_of_encode encodes
  exact ⟨path.value, (givesAlone_value_iff request.nodup_elements success .path path.value).mp
    ⟨path, ⟨request.path, kind ▸ member, kind ▸ encodes⟩, kind, rfl⟩⟩

theorem Request.isProductOf_toJson {request : Request} {maxDepth : Nat}
    {encoded : List EncodedElement}
    (success : encodeElements maxDepth request.elements = .ok encoded) :
    IsProductOf maxDepth request.elements
      ((Assembled.ofElements encoded).toRequest request.method).toJson := by
  obtain ⟨path, found⟩ := request.exists_path success
  have fields := ((Assembled.ofElements encoded).toRequest request.method).hasFields_toJson
  refine isProductOf_of_fields request.nodup_elements success (fun element => ?_) fields.rules
    fields.generators
  cases element with
  | body => exact fields.body
  | query => exact fields.query
  | header => exact fields.headers
  | path =>
    refine fields.path.trans ?_
    rw [found, Assembled.toRequest, found]
    rfl

/-- A response has neither a path nor a query. -/
theorem Response.find?_values_eq_none {response : Response} {maxDepth : Nat}
    {encoded : List EncodedElement}
    (success : encodeElements maxDepth response.elements = .ok encoded) {element : Element}
    (other : element = .path ∨ element = .query) :
    (Assembled.ofElements encoded).values.find? element = none := by
  refine Option.eq_none_iff_forall_ne_some.mpr fun value found => ?_
  obtain ⟨_, ⟨node, member, _⟩, kind, _⟩ :=
    (givesAlone_value_iff response.nodup_elements success element value).mpr found
  rw [kind, Response.elements] at member
  rcases other with rfl | rfl <;> cases headers : response.headers <;>
    cases body : response.body <;> simp [headers, body, headerElement, bodyElement] at member

theorem Response.isProductOf_toJson {response : Response} {maxDepth : Nat}
    {encoded : List EncodedElement}
    (success : encodeElements maxDepth response.elements = .ok encoded) :
    IsProductOf maxDepth response.elements
      ((Assembled.ofElements encoded).toResponse response.status).toJson := by
  have fields := ((Assembled.ofElements encoded).toResponse response.status).hasFields_toJson
  refine isProductOf_of_fields response.nodup_elements success (fun element => ?_) fields.rules
    fields.generators
  cases element with
  | body => exact fields.body
  | query => exact fields.query.trans (response.find?_values_eq_none success (.inr rfl)).symm
  | header => exact fields.headers
  | path => exact fields.path.trans (response.find?_values_eq_none success (.inl rfl)).symm

/-- What compiling a message gives and what the reader of descriptions finds about it, by the
elements of the message. -/
structure CompilesByElement (maxDepth : Nat) (elements : List AuthoredElement)
    (compiled : Except EncodingFailure Json) (findings : String → List Finding) : Prop where
  succeeds : (∃ message, compiled = .ok message) ↔
    ∀ authored ∈ elements, AuthoredElement.Encodes maxDepth authored
  product : ∀ message, compiled = .ok message →
    IsProductOf maxDepth elements message ∧ ∀ place, findings place = []
  /-- The place that is reported is in the field of the element that fails first. -/
  failure : ∀ failure, compiled = .error failure → ∃ element,
    FailsFirst maxDepth elements element failure ∧
      failingElement? maxDepth elements = some element ∧
        ∀ place, findings place =
          [.located (Location.field place (Location.elementField element) ++
            Location.pathSuffix element failure.path) (.notEncoded failure)]

theorem CompilesByElement.of_encodeElements {maxDepth : Nat} {elements : List AuthoredElement}
    {compiled : Except EncodingFailure Json} {write : List EncodedElement → Json}
    {findings : String → List Finding}
    (passes : compiled = (encodeElements maxDepth elements).map write)
    (product : ∀ encoded, encodeElements maxDepth elements = .ok encoded →
      IsProductOf maxDepth elements (write encoded))
    (found : ∀ place, findings place = (errorsOf (encodeElements maxDepth elements)).map
      (Description.encodingFinding place maxDepth elements)) :
    CompilesByElement maxDepth elements compiled findings := by
  subst passes
  cases outcome : encodeElements maxDepth elements with
  | ok encoded =>
    rw [outcome] at found
    refine ⟨?_, ?_, nofun⟩
    · rw [← exists_encodeElements_iff, outcome]
      exact iff_of_true ⟨_, rfl⟩ ⟨_, rfl⟩
    · rintro message same
      cases same
      exact ⟨product encoded outcome, found⟩
  | error failure =>
    obtain ⟨element, fails⟩ := exists_failsFirst outcome
    rw [outcome] at found
    refine ⟨iff_of_false nofun fails.not_encodes, nofun, ?_⟩
    rintro other same
    cases same
    refine ⟨element, fails, fails.failingElement?_eq, fun place => ?_⟩
    rw [found, errorsOf, List.map_singleton, Description.encodingFinding, fails.failingElement?_eq]
    rfl

theorem Request.compile_eq (request : Request) (maxDepth : Nat) :
    request.compile maxDepth =
      (encodeElements maxDepth request.elements).map fun encoded =>
        (Assembled.ofElements encoded).toRequest request.method := by
  rw [compile]
  cases encodeElements maxDepth request.elements <;> rfl

theorem Response.compile_eq (response : Response) (maxDepth : Nat) :
    response.compile maxDepth =
      (encodeElements maxDepth response.elements).map fun encoded =>
        (Assembled.ofElements encoded).toResponse response.status := by
  rw [compile]
  cases encodeElements maxDepth response.elements <;> rfl

/-- The message with these elements has been attached, or its failure is kept. -/
structure Interaction.Attaches (elements : List AuthoredElement) (before after : Interaction) :
    Prop where
  failures : after.failures = before.failures ++ errorsOf (encodeElements before.maxDepth elements)
  maxDepth : after.maxDepth = before.maxDepth

theorem Interaction.withRequest_attaches (interaction : Interaction) (request : Request) :
    Attaches request.elements interaction (interaction.withRequest request) := by
  rw [withRequest, request.compile_eq]
  cases outcome : encodeElements interaction.maxDepth request.elements with
  | ok encoded => exact ⟨by rw [outcome]; exact (List.append_nil _).symm, rfl⟩
  | error failure => exact ⟨by rw [outcome]; rfl, rfl⟩

theorem Interaction.withResponse_attaches (interaction : Interaction) (response : Response) :
    Attaches response.elements interaction (interaction.withResponse response) := by
  rw [withResponse, response.compile_eq]
  cases outcome : encodeElements interaction.maxDepth response.elements with
  | ok encoded => exact ⟨by rw [outcome]; exact (List.append_nil _).symm, rfl⟩
  | error failure => exact ⟨by rw [outcome]; rfl, rfl⟩

namespace Description

/-- There is one finding for the failure of a message that has been attached. -/
theorem encodingFindings_of_attaches {elements : List AuthoredElement}
    {before after : Interaction} (attached : before.Attaches elements after) (place : String) :
    encodingFindings place elements before after =
      (errorsOf (encodeElements before.maxDepth elements)).map
        (encodingFinding place before.maxDepth elements) := by
  rw [encodingFindings, attached.failures, List.drop_left, attached.maxDepth]
  rfl

/-- Requests and responses are compiled element by element, each on its own, and what is found
about a message names the element that failed first. -/
theorem compile_byElement (interaction : Interaction) (maxDepth : Nat) :
    let limited := interaction.withMaxDepth maxDepth
    (∀ request : Request,
      CompilesByElement maxDepth request.elements
        ((request.compile maxDepth).map CompiledRequest.toJson)
        (encodingFindings · request.elements limited (limited.withRequest request))) ∧
    ∀ response : Response,
      CompilesByElement maxDepth response.elements
        ((response.compile maxDepth).map CompiledResponse.toJson)
        (encodingFindings · response.elements limited (limited.withResponse response)) := by
  intro limited
  constructor
  · intro request
    refine .of_encodeElements ?_ (fun encoded => request.isProductOf_toJson)
      (encodingFindings_of_attaches (limited.withRequest_attaches request))
    rw [request.compile_eq]
    cases encodeElements maxDepth request.elements <;> rfl
  · intro response
    refine .of_encodeElements ?_ (fun encoded => response.isProductOf_toJson)
      (encodingFindings_of_attaches (limited.withResponse_attaches response))
    rw [response.compile_eq]
    cases encodeElements maxDepth response.elements <;> rfl

end Description

end ConsumerContract
