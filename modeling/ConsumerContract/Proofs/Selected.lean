/-
This file says which parts of a compiled value an address leads to. A list of steps
selects parts of a JSON value, one at a key or an index and all elements of an
array at a wildcard. What lies at an address of the tree is selected there in the
value: a wrapper has the value of its sample, the elements of a repeated sequence
have the address of any element, and a repeated mapping is the one element of an
array, so either wildcard stands for one step into an array. Where no two elements
share an address, nothing else is selected.
-/

import ConsumerContract.Proofs.Recorded

namespace ConsumerContract

namespace Json

/-! ### Parts of a value -/

/-- The parts of a value behind one step. Either wildcard leads to every element. -/
def parts : Step → Json → List Json
  | .key name, object members => (Keyed.find? name members).toList
  | .index position, array items => items[position]?.toList
  | .anyItem, array items | .anyMember, array items => items
  | _, _ => []

/-- The parts of a value that a list of steps leads to. -/
def select : List Step → Json → List Json
  | [], value => [value]
  | step :: rest, value => (value.parts step).flatMap (select rest)

theorem select_append (first second : List Step) :
    select (first ++ second) = fun value => (value.select first).flatMap (select second) := by
  funext value
  induction first generalizing value with
  | nil => exact (List.append_nil _).symm
  | cons step rest inductionHypothesis =>
    rw [List.cons_append, select, select, List.flatMap_assoc, funext inductionHypothesis]

theorem select_singleton (step : Step) (value : Json) : value.select [step] = value.parts step :=
  List.flatMap_singleton' _

end Json

namespace Node

/-! ### Values of parts -/

theorem strippedItems_eq_map (items : List Node) : strippedItems items = items.map stripped := by
  induction items with
  | nil => rfl
  | cons item rest inductionHypothesis => rw [strippedItems, inductionHypothesis, List.map_cons]

theorem mem_strippedItems {items : List Node} {item : Node} (member : item ∈ items) :
    item.stripped ∈ strippedItems items := by
  rw [strippedItems_eq_map]
  exact List.mem_map_of_mem member

theorem getElem?_strippedItems {items : List Node} {item : Node} {position : Nat}
    (found : items[position]? = some item) :
    (strippedItems items)[position]? = some item.stripped := by
  rw [strippedItems_eq_map, List.getElem?_map, found]
  rfl

theorem strippedMembers_eq_map (members : List (String × Node)) :
    strippedMembers members = members.map fun entry => (entry.1, entry.2.stripped) := by
  induction members with
  | nil => rfl
  | cons entry rest inductionHypothesis =>
    obtain ⟨key, member⟩ := entry
    rw [strippedMembers, inductionHypothesis, List.map_cons]

theorem find?_strippedMembers {members : List (String × Node)}
    (distinct : (Keyed.keys members).Nodup) {key : String} {member : Node}
    (found : (key, member) ∈ members) :
    Keyed.find? key (strippedMembers members) = some member.stripped := by
  rw [strippedMembers_eq_map, Keyed.find?_map, (Keyed.find?_eq_some distinct).mpr found]
  rfl

/-! ### Values at addresses -/

/-- The values at the address of a node. Where a sequence is repeated, the step to any element
has been made, so they are those of its elements; any other node has the one that is its own. -/
def valuesAt (repeated : Bool) : Node → List Json
  | sequence items => if repeated then strippedItems items else [.array (strippedItems items)]
  | node => [node.stripped]

theorem valuesAt_of_ne_sequence {node : Node} (other : ∀ items, node ≠ .sequence items)
    (repeated : Bool) : node.valuesAt repeated = [node.stripped] := by
  cases node with
  | sequence items => exact absurd rfl (other items)
  | _ => rfl

theorem valuesAt_false (node : Node) : node.valuesAt false = [node.stripped] := by
  cases node <;> rfl

section Select

variable {repeated flag : Bool} {node child part : Node} {front steps : List Step} {level : Nat}

/-- The values of a part are what the steps to it select, unless the part is only one of the
elements of a repeated sequence. -/
theorem Below.select_cases (ordered : node.KeysOrdered)
    (edge : Below .body repeated node front flag child) :
    (node.valuesAt repeated).flatMap (Json.select front) = child.valuesAt flag ∨
      front = [] ∧ flag = false ∧ ∃ items, repeated = true ∧ node = .sequence items ∧
        child ∈ items := by
  cases edge with
  | sharedItem shared member =>
    have isRepeated : repeated = true := (Bool.or_eq_true_iff.mp shared).resolve_right (by decide)
    exact Or.inr ⟨rfl, rfl, _, isRepeated, rfl, member⟩
  | item apart found =>
    have isSingle : repeated = false := (Bool.or_eq_false_iff.mp apart).1
    refine Or.inl ?_
    rw [isSingle, valuesAt_false, valuesAt_false, List.flatMap_singleton, Json.select_singleton,
      stripped, Json.parts, getElem?_strippedItems found]
    rfl
  | member found =>
    refine Or.inl ?_
    rw [valuesAt_false, valuesAt_of_ne_sequence (by rintro _ same; cases same),
      List.flatMap_singleton, Json.select_singleton, stripped, Json.parts,
      find?_strippedMembers ordered.keys found]
    rfl
  | sample wrapped =>
    refine Or.inl ?_
    rw [valuesAt_false, valuesAt_of_ne_sequence (by rintro _ rfl; cases wrapped),
      stripped_of_sample? wrapped]
    rfl
  | collection shape =>
    refine Or.inl ?_
    rw [valuesAt_of_ne_sequence (by rintro _ same; cases same), List.flatMap_singleton,
      Json.select_singleton, stripped_repetition shape]
    cases child with
    | sequence items =>
      rw [← Option.some.inj shape]
      rfl
    | mapping members =>
      rw [← Option.some.inj shape]
      rfl
    | _ => cases shape

theorem Below.mem_select (ordered : node.KeysOrdered)
    (edge : Below .body repeated node front flag child) {value : Json}
    (member : value ∈ child.valuesAt flag) :
    value ∈ (node.valuesAt repeated).flatMap (Json.select front) := by
  rcases edge.select_cases ordered with same | ⟨rfl, rfl, items, rfl, rfl, inside⟩
  · rw [same]
    exact member
  · rw [valuesAt_false, List.mem_singleton] at member
    rw [member]
    exact List.mem_flatMap.mpr ⟨_, mem_strippedItems inside, List.mem_cons_self⟩

theorem Below.select_eq (ordered : node.KeysOrdered) (shares : SharesNothing repeated node)
    (edge : Below .body repeated node front flag child) :
    (node.valuesAt repeated).flatMap (Json.select front) = child.valuesAt flag := by
  rcases edge.select_cases ordered with same | ⟨rfl, rfl, items, rfl, rfl, inside⟩
  · exact same
  · obtain rfl := shares.eq_singleton rfl inside
    rw [valuesAt_false]
    rfl

/-- The value of a node is among those that the steps to it select. -/
theorem Reaches.mem_select (reached : Reaches .body repeated node steps level part)
    (ordered : node.KeysOrdered) (other : ∀ items, part ≠ .sequence items) :
    part.stripped ∈ (node.valuesAt repeated).flatMap (Json.select steps) := by
  induction reached with
  | itself repeated node =>
    rw [valuesAt_of_ne_sequence other]
    exact List.mem_cons_self
  | deeper edge inside inductionHypothesis =>
    have below := inductionHypothesis (ordered.child edge.mem_children) other
    obtain ⟨value, member, selected⟩ := List.mem_flatMap.mp below
    rw [Json.select_append, ← List.flatMap_assoc]
    exact List.mem_flatMap.mpr ⟨value, edge.mem_select ordered member, selected⟩

/-- Where no elements share an address, the steps to a node select its value only. -/
theorem Reaches.select_eq (reached : Reaches .body repeated node steps level part)
    (ordered : node.KeysOrdered) (shares : SharesNothing repeated node)
    (other : ∀ items, part ≠ .sequence items) :
    (node.valuesAt repeated).flatMap (Json.select steps) = [part.stripped] := by
  induction reached with
  | itself repeated node =>
    rw [valuesAt_of_ne_sequence other]
    rfl
  | deeper edge inside inductionHypothesis =>
    rw [Json.select_append, ← List.flatMap_assoc, edge.select_eq ordered shares]
    exact inductionHypothesis (ordered.child edge.mem_children) (shares.child edge) other

end Select

end Node

end ConsumerContract
