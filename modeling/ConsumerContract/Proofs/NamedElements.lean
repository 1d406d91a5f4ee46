/-
This file follows the declarations of headers and query parameters to the names
they belong to. A value that carries a leaf declares at its own address only, so
the address of a declaration is the name alone, and below the empty root the name
is also the path. Of several values of one query parameter the last one that
declares something is kept, and of several wrappers around one leaf the outermost.

The declarations of all names make up one map. It is written under its names
unless the only name in it is the empty one: its path is that of the whole
element, so that the declaration stands there by itself and without its name.
-/

import ConsumerContract.Interaction.Message
import ConsumerContract.Proofs.Recorded

namespace ConsumerContract

/-! ### Values that carry a leaf -/

namespace Node

/-- What the outermost wrapper declares, of those around one value that declare something. -/
def outermost? {α : Type} (own : Node → Option α) (node : Node) : Option α :=
  (node :: node.layers).findSome? own

section Carriers

variable {element : Element} {node : Node}

theorem layers_of_sample? {sample : Node} (wrapped : node.sample? = some sample) :
    node.layers = sample :: sample.layers := by
  cases node with
  | matcher rules combine inner => rw [layers, Option.some.inj wrapped]
  | generator declaration inner => rw [layers, Option.some.inj wrapped]
  | composite rule declaration inner => rw [layers, Option.some.inj wrapped]
  | _ => cases wrapped

theorem sampleScalar?_of_sample? {sample : Node} (wrapped : node.sample? = some sample) :
    node.sampleScalar? = sample.sampleScalar? := by
  cases node with
  | matcher rules combine inner => rw [sampleScalar?, Option.some.inj wrapped]
  | generator declaration inner => rw [sampleScalar?, Option.some.inj wrapped]
  | composite rule declaration inner => rw [sampleScalar?, Option.some.inj wrapped]
  | _ => cases wrapped

theorem outermost?_of_sample? {α : Type} {own : Node → Option α} {sample : Node}
    (wrapped : node.sample? = some sample) :
    node.outermost? own = (own node).or (sample.outermost? own) := by
  rw [outermost?, outermost?, layers_of_sample? wrapped, List.findSome?_cons]
  cases own node with
  | none => rfl
  | some declaration => rfl

/-- All that lies in a value that carries a leaf lies at its own address. -/
theorem steps_eq_nil_of_carrier (carries : node.sampleScalar?.isSome) {repeated : Bool}
    {steps : List Step} {level : Nat} {part : Node}
    (reached : Reaches element repeated node steps level part) : steps = [] := by
  induction reached with
  | itself repeated node => rfl
  | deeper edge inside inductionHypothesis =>
    cases edge with
    | sample wrapped =>
      rw [sampleScalar?_of_sample? wrapped] at carries
      exact inductionHypothesis carries
    | _ => cases carries

theorem lastAt_rules_of_carrier (carries : node.sampleScalar?.isSome) :
    Entries.lastAt [] (node.entries element false).rules =
      node.outermost? (ownRules? element) := by
  induction node with
  | scalar value => rfl
  | matcher rules combine sample inductionHypothesis => exact Entries.lastAt_concat_self _
  | generator declaration sample inductionHypothesis => exact inductionHypothesis carries
  | composite rule declaration sample inductionHypothesis =>
    rw [outermost?_of_sample? rfl, ownRules?, entries]
    split
    · exact inductionHypothesis carries
    · exact Entries.lastAt_concat_self _
  | _ => cases carries

theorem lastAt_generators_of_carrier (carries : node.sampleScalar?.isSome) :
    Entries.lastAt [] (node.entries element false).generators = node.outermost? ownGenerator? := by
  induction node with
  | scalar value => rfl
  | matcher rules combine sample inductionHypothesis => exact inductionHypothesis carries
  | generator declaration sample inductionHypothesis => exact Entries.lastAt_concat_self _
  | composite rule declaration sample inductionHypothesis => exact Entries.lastAt_concat_self _
  | _ => cases carries

end Carriers

end Node

/-! ### Lists of values -/

namespace Entries

/-- Of several lists behind each other, the last one with an entry at an address counts. -/
theorem lastAt_flatMap_of_each {α β : Type} {steps : List Step} {parts : β → List (List Step × α)}
    {last : β → Option α} {items : List β}
    (each : ∀ item ∈ items, lastAt steps (parts item) = last item) :
    lastAt steps (items.flatMap parts) = items.reverse.findSome? last := by
  induction items with
  | nil => rfl
  | cons item rest inductionHypothesis =>
    obtain ⟨first, others⟩ := List.forall_mem_cons.mp each
    rw [List.flatMap_cons, lastAt_append, inductionHypothesis others, first, List.reverse_cons,
      List.findSome?_append, List.findSome?_singleton]

/-- Below the empty root the path of a name is the name. -/
theorem find?_ofList_names {α : Type} {listed : List (List Step × α)}
    (named : ∀ entry ∈ listed, ∃ name, entry.1 = [.key name]) (name : String) :
    Keyed.find? name (Keyed.ofList (listed.map fun (steps, declaration) =>
        ((Path.empty.ofSteps steps).text, declaration))) = lastAt [.key name] listed := by
  have alone (entry : List Step × α) (member : entry ∈ listed)
      (sameText : (Path.empty.ofSteps entry.1).text = (Path.empty.ofSteps [.key name]).text) :
      entry.1 = [.key name] := by
    obtain ⟨other, same⟩ := named entry member
    rw [same] at sameText ⊢
    exact congrArg (fun name => [Step.key name]) sameText
  exact find?_ofList_of_text alone

/-- The map of the entries of one sort, each under its own path. -/
def Listing.keyed {α : Type} (listing : Listing α) (path : Path) (entries : Entries) : Keyed α :=
  Keyed.ofList ((listing.listed entries).map fun (steps, declaration) =>
    ((path.ofSteps steps).text, declaration))

theorem Listing.ordered_keyed {α : Type} (listing : Listing α) (path : Path) (entries : Entries) :
    Keyed.Ordered (listing.keyed path entries) :=
  Keyed.ordered_ofList _

end Entries

/-! ### Sections -/

namespace Node

/-- Everything in the tree lies at the address of the tree. -/
def IsFlat (element : Element) (node : Node) : Prop :=
  ∀ steps level part, Reaches element false node steps level part → steps = []

theorem isFlat_of_carrier {element : Element} {node : Node}
    (carries : node.sampleScalar?.isSome) : node.IsFlat element :=
  fun _ _ _ reached => steps_eq_nil_of_carrier carries reached

theorem isFlat_sequence {element : Element} (shares : element.sharesItems = true)
    {values : List Node} (carry : ∀ value ∈ values, value.sampleScalar?.isSome) :
    (sequence values).IsFlat element := by
  intro steps level part reached
  cases reached with
  | itself => rfl
  | deeper edge inside =>
    cases edge with
    | sharedItem shared member => exact steps_eq_nil_of_carrier (carry _ member) inside
    | item apart found =>
      rw [shares, Bool.or_true] at apart
      cases apart
    | sample wrapped => cases wrapped

section Listings

variable {α : Type} (listing : Entries.Listing α) {own : Node → Option α} {element : Element}

theorem listed_entriesOfItems_shared (position : Nat) (items : List Node) :
    listing.listed (entriesOfItems element true position items) =
      items.flatMap fun item => listing.listed (item.entries element false) := by
  induction items generalizing position with
  | nil => exact listing.listed_empty
  | cons item rest inductionHypothesis =>
    rw [entriesOfItems, if_pos rfl, listing.listed_append, inductionHypothesis, List.flatMap_cons]

/-- Of a list of values that share an address, the last one that declares something counts. -/
theorem lastAt_of_values (shares : element.sharesItems = true) {values : List Node}
    (each : ∀ value ∈ values,
      Entries.lastAt [] (listing.listed (value.entries element false)) = value.outermost? own) :
    Entries.lastAt [] (listing.listed ((sequence values).entries element false)) =
      values.reverse.findSome? (outermost? own) := by
  rw [entries, shares, Bool.or_true, listed_entriesOfItems_shared]
  exact Entries.lastAt_flatMap_of_each each

/-- What lies under a name in the map of a mapping is what its member declares last. -/
theorem find?_of_members {members : List (String × Node)} (distinct : (Keyed.keys members).Nodup)
    (flat : ∀ entry ∈ members, entry.2.IsFlat element) (name : String) :
    Keyed.find? name (listing.keyed .empty ((mapping members).entries element false)) =
      (Keyed.find? name members).bind fun member =>
        Entries.lastAt [] (listing.listed (member.entries element false)) := by
  have named (entry : List Step × α)
      (member : entry ∈ listing.listed ((mapping members).entries element false)) :
      ∃ name, entry.1 = [.key name] := by
    obtain ⟨declaration, recorded⟩ := listing.recorded member
    rw [entries] at recorded
    obtain ⟨name, node, rest, found, same, inside⟩ := records_entriesOfMembers.mp recorded
    obtain ⟨level, part, reached, -⟩ := records_entries.mp inside
    obtain rfl := flat (name, node) found rest level part reached
    exact ⟨name, same⟩
  refine (Entries.find?_ofList_names named name).trans ?_
  rw [entries]
  exact lastAt_entriesOfMembers listing element distinct name []

end Listings

end Node

/-- The section of an element whose declarations belong to names. It is written by name, unless
the empty name is the only one that anything is declared for: then the declaration stands by
itself. -/
def Declarations.IsNamed {α : Type} (named : String → Option α) : Option (Declarations α) → Prop
  | none => ∀ name, named name = none
  | some (bare declaration) => ∀ name, named name = if name = "" then some declaration else none
  | some (byPath entries) =>
    Keyed.Ordered entries ∧ (∃ name declaration, name ≠ "" ∧ named name = some declaration) ∧
      ∀ name, Keyed.find? name entries = named name

theorem Declarations.isNamed_ofEntries? {α : Type} {element : Element} (outside : element ≠ .body)
    {entries : Keyed α} (ordered : Keyed.Ordered entries) {named : String → Option α}
    (same : ∀ name, Keyed.find? name entries = named name) :
    IsNamed named (ofEntries? element entries) := by
  match entries with
  | [] => exact fun name => (same name).symm
  | [(path, declaration)] =>
    rw [ofEntries?]
    split
    · rename_i alone
      intro name
      rw [← same, Keyed.find?, Keyed.find?_nil, alone.2]
    · rename_i keyed
      refine ⟨ordered, ⟨path, declaration, fun empty => keyed ⟨outside, empty⟩, ?_⟩, same⟩
      rw [← same, Keyed.find?, if_pos rfl]
  | (first, declaration) :: (second, declaration') :: rest =>
    refine ⟨ordered, ?_, same⟩
    have fresh := (List.nodup_cons.mp ordered.nodup).1
    have different : first ≠ second := fun same => fresh (same ▸ List.mem_cons_self)
    by_cases empty : first = ""
    · refine ⟨second, declaration', fun empty' => different (empty.trans empty'.symm), ?_⟩
      rw [← same, Keyed.find?, if_neg different.symm, Keyed.find?, if_pos rfl]
    · exact ⟨first, declaration, empty, by rw [← same, Keyed.find?, if_pos rfl]⟩

/-! ### Requests -/

namespace Request

/-- A request with its headers and its query parameters in key order, as it keeps them. -/
structure Ordered where
  request : Request
  headers : Keyed.Ordered request.headers
  query : Keyed.Ordered request.query

/-- The values under a name, as a header or as a query parameter. -/
def valuesAt (request : Request) (element : Element) (name : String) : List Node :=
  match element with
  | .header => (Keyed.find? name request.headers).toList
  | .query => (Keyed.find? name request.query).getD []
  | .body | .path => []

/-- What is declared for a name: of the values under it, the last one that declares anything
counts. -/
def declaredAt? {α : Type} (own : Node → Option α) (request : Request) (element : Element)
    (name : String) : Option α :=
  (request.valuesAt element name).reverse.findSome? (Node.outermost? own)

theorem mem_elements {request : Request} {authored : AuthoredElement}
    (member : authored ∈ request.elements) :
    authored = (.path, request.path) ∨
      authored = (.query, .mapping (request.query.map fun (name, values) =>
        (name, .sequence values))) ∨
      authored = (.header, .mapping request.headers) ∨ authored.1 = .body := by
  rw [elements, List.mem_append, List.mem_append, List.mem_cons] at member
  rcases member with ((path | query) | headers) | body
  · exact Or.inl path
  · refine Or.inr (Or.inl ?_)
    cases values : request.query with
    | nil =>
      rw [values] at query
      cases query
    | cons first rest =>
      rw [values] at query
      exact List.mem_singleton.mp query
  · refine Or.inr (Or.inr (Or.inl ?_))
    cases values : request.headers with
    | nil =>
      rw [values] at headers
      cases headers
    | cons first rest =>
      rw [values] at headers
      exact List.mem_singleton.mp headers
  · refine Or.inr (Or.inr (Or.inr ?_))
    cases value : request.body with
    | none =>
      rw [value] at body
      cases body
    | some node =>
      rw [value] at body
      rw [List.mem_singleton.mp body]

section Named

variable {request : Request}

/-- What holds of all headers holds of those under one name. -/
theorem forall_valuesAt_header {property : Node → Prop}
    (each : ∀ entry ∈ request.headers, property entry.2) (name : String) :
    ∀ value ∈ request.valuesAt .header name, property value :=
  fun _ member => each _ (Keyed.mem_of_find? (Option.mem_toList.mp member))

/-- What holds of the values of all query parameters holds of those under one name. -/
theorem forall_valuesAt_query {property : Node → Prop}
    (each : ∀ entry ∈ request.query, ∀ value ∈ entry.2, property value) (name : String) :
    ∀ value ∈ request.valuesAt .query name, property value := by
  rw [valuesAt]
  cases found : Keyed.find? name request.query with
  | none => exact nofun
  | some values => exact each _ (Keyed.mem_of_find? found)

variable {α : Type} (listing : Entries.Listing α) {own : Node → Option α} {written : Ordered}

theorem isNamed_headers
    (outermost : ∀ node : Node, node.sampleScalar?.isSome →
      Entries.lastAt [] (listing.listed (node.entries .header false)) = node.outermost? own)
    (carry : ∀ name, ∀ value ∈ written.request.valuesAt .header name, value.sampleScalar?.isSome) :
    Declarations.IsNamed (written.request.declaredAt? own .header) (Declarations.ofEntries? .header
      (listing.keyed .empty ((Node.mapping written.request.headers).entries .header false))) := by
  have carries {name : String} {value : Node}
      (found : Keyed.find? name written.request.headers = some value) :
      value.sampleScalar?.isSome :=
    carry name value (Option.mem_toList.mpr found)
  have flat : ∀ entry ∈ written.request.headers, entry.2.IsFlat .header := fun entry member =>
    Node.isFlat_of_carrier (carries ((Keyed.find?_eq_some written.headers.nodup).mpr member))
  refine Declarations.isNamed_ofEntries? (by decide) (listing.ordered_keyed _ _) fun name => ?_
  rw [Node.find?_of_members listing written.headers.nodup flat, declaredAt?, valuesAt]
  cases found : Keyed.find? name written.request.headers with
  | none => rfl
  | some value => exact (outermost value (carries found)).trans List.findSome?_singleton.symm

theorem isNamed_query
    (outermost : ∀ node : Node, node.sampleScalar?.isSome →
      Entries.lastAt [] (listing.listed (node.entries .query false)) = node.outermost? own)
    (carry : ∀ name, ∀ value ∈ written.request.valuesAt .query name, value.sampleScalar?.isSome) :
    Declarations.IsNamed (written.request.declaredAt? own .query) (Declarations.ofEntries? .query
      (listing.keyed .empty ((Node.mapping (written.request.query.map fun (name, values) =>
        (name, .sequence values))).entries .query false))) := by
  have carries {name : String} {values : List Node}
      (found : Keyed.find? name written.request.query = some values) :
      ∀ value ∈ values, value.sampleScalar?.isSome := by
    have carryAll := carry name
    rwa [valuesAt, found] at carryAll
  have distinct : (Keyed.keys (written.request.query.map fun (name, values) =>
      (name, Node.sequence values))).Nodup :=
    Keyed.keys_map Node.sequence written.request.query ▸ written.query.nodup
  have flat : ∀ entry ∈ written.request.query.map fun (name, values) =>
      (name, Node.sequence values), entry.2.IsFlat .query :=
    List.forall_mem_map.mpr fun entry member =>
    Node.isFlat_sequence rfl (carries ((Keyed.find?_eq_some written.query.nodup).mpr member))
  have members (name : String) : Keyed.find? name (written.request.query.map fun (name, values) =>
      (name, Node.sequence values)) = (Keyed.find? name written.request.query).map .sequence :=
    Keyed.find?_map Node.sequence name written.request.query
  refine Declarations.isNamed_ofEntries? (by decide) (listing.ordered_keyed _ _) fun name => ?_
  rw [Node.find?_of_members listing distinct flat, members, declaredAt?, valuesAt]
  cases found : Keyed.find? name written.request.query with
  | none => rfl
  | some values =>
    exact Node.lastAt_of_values listing rfl fun value member =>
      outermost value (carries found value member)

end Named

/-- The declarations of headers and of query parameters belong to the names that their values
have, and none is lost, joined with those of another name or added. The one exception to writing
them by name is the empty name if nothing is declared for another one. -/
theorem encode_isNamed (written : Ordered) (element : Element) (node : Node)
    (named : element = .header ∨ element = .query)
    (member : (element, node) ∈ written.request.elements)
    (carry : ∀ name, ∀ value ∈ written.request.valuesAt element name, value.sampleScalar?.isSome)
    (maxDepth : Nat) (encoded : EncodedElement)
    (success : node.encode element maxDepth = .ok encoded) :
    Declarations.IsNamed (written.request.declaredAt? (Node.ownRules? element) element)
        encoded.rules ∧
      Declarations.IsNamed (written.request.declaredAt? Node.ownGenerator? element)
        encoded.generators := by
  rw [Node.eq_encodedForm_of_encode success]
  rcases mem_elements member with path | query | headers | body
  · obtain ⟨rfl, -⟩ := Prod.mk.inj path
    rcases named with none | none <;> cases none
  · obtain ⟨rfl, rfl⟩ := Prod.mk.inj query
    exact ⟨isNamed_query .rules (fun _ => Node.lastAt_rules_of_carrier) carry,
      isNamed_query .generators (fun _ => Node.lastAt_generators_of_carrier) carry⟩
  · obtain ⟨rfl, rfl⟩ := Prod.mk.inj headers
    exact ⟨isNamed_headers .rules (fun _ => Node.lastAt_rules_of_carrier) carry,
      isNamed_headers .generators (fun _ => Node.lastAt_generators_of_carrier) carry⟩
  · obtain rfl : element = .body := body
    rcases named with none | none <;> cases none

/-- Names are written as they are, the empty one among them, and of several values the last one
that declares something counts. -/
theorem encode_isNamed_of_tags :
    let own := Node.matcher [.sameType] none (.string "x")
    let id := Node.composite .integer (.randomInt 1 9) (.integer 5)
    let tags := [own, id, .integer 2]
    let written : Ordered :=
      ⟨{ method := .get, path := .string "/", query := [("", [own]), ("tags[]", tags)] },
        .nil, by decide⟩
    let node := Node.mapping [("", .sequence [own]), ("tags[]", .sequence tags)]
    (Element.query, node) ∈ written.request.elements ∧
      (∀ name, ∀ value ∈ written.request.valuesAt .query name, value.sampleScalar?.isSome) ∧
      ∃ encoded, node.encode .query 5 = .ok encoded ∧
        encoded.rules = some (.byPath [("", ⟨[.sameType], none⟩), ("tags[]", ⟨[.integer], none⟩)]) ∧
        encoded.generators = some (.byPath [("tags[]", .randomInt 1 9)]) ∧
        Declarations.IsNamed (written.request.declaredAt? (Node.ownRules? .query) .query)
          encoded.rules ∧
        Declarations.IsNamed (written.request.declaredAt? Node.ownGenerator? .query)
          encoded.generators := by
  intro own id tags written node
  have listed : (Element.query, node) ∈ written.request.elements :=
    List.mem_cons_of_mem _ List.mem_cons_self
  have carry (name : String) :
      ∀ value ∈ written.request.valuesAt .query name, value.sampleScalar?.isSome :=
    forall_valuesAt_query (by decide) name
  exact ⟨listed, carry, _, rfl, rfl, rfl,
    encode_isNamed written .query node (.inr rfl) listed carry 5 _ rfl⟩

/-- A declaration for the empty name alone is written without its name. -/
theorem name_lost_of_empty :
    let value := Node.matcher [.sameType] none (.string "x")
    let written : Ordered :=
      ⟨{ method := .get, path := .string "/", headers := [("", value)] }, by decide, .nil⟩
    let node := Node.mapping [("", value)]
    (Element.header, node) ∈ written.request.elements ∧
      (∀ name, ∀ value ∈ written.request.valuesAt .header name, value.sampleScalar?.isSome) ∧
      ∃ encoded, node.encode .header 5 = .ok encoded ∧
        written.request.declaredAt? (Node.ownRules? .header) .header "" = some ⟨[.sameType], none⟩ ∧
        encoded.rules = some (.bare ⟨[.sameType], none⟩) ∧
        ∀ entries, encoded.rules ≠ some (.byPath entries) := by
  intro value written node
  have carry (name : String) :
      ∀ value ∈ written.request.valuesAt .header name, value.sampleScalar?.isSome :=
    forall_valuesAt_header (by decide) name
  exact ⟨List.mem_cons_of_mem _ List.mem_cons_self, carry, _, rfl, rfl, rfl, nofun⟩

end Request

end ConsumerContract
