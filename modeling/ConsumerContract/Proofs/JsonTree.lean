/-
This file holds the vocabulary of JSON values that statements about reading and
encoding use: the values directly inside a value, the values anywhere in it, its
height, and objects with their members in key order, as every value that was read
from a text has them. Two values are compared by a relation between numbers: they
have the same structure, keys, strings and truth values, and their numbers are
related one by one.
-/

import ConsumerContract.Json.Basic
import ConsumerContract.Proofs.Keyed

namespace ConsumerContract.Json

/-! ### Induction -/

@[induction_eliminator]
theorem valueInduction {motive : Json → Prop} (null : motive .null)
    (bool : ∀ value, motive (.bool value)) (number : ∀ numeral, motive (.number numeral))
    (string : ∀ text, motive (.string text))
    (array : ∀ items, (∀ item ∈ items, motive item) → motive (.array items))
    (object : ∀ members, (∀ key value, (key, value) ∈ members → motive value) →
      motive (.object members))
    (value : Json) : motive value :=
  Json.rec (motive_1 := motive) (motive_2 := fun items => ∀ item ∈ items, motive item)
    (motive_3 := fun members => ∀ key value, (key, value) ∈ members → motive value)
    (motive_4 := fun entry => motive entry.2)
    null bool number string array object
    (fun _ member => absurd member List.not_mem_nil)
    (fun _ _ first rest _ member => by
      rcases List.mem_cons.mp member with rfl | member
      · exact first
      · exact rest _ member)
    (fun _ _ member => absurd member List.not_mem_nil)
    (fun _ _ first rest _ _ member => by
      rcases List.mem_cons.mp member with rfl | member
      · exact first
      · exact rest _ _ member)
    (fun _ _ second => second)
    value

/-! ### Parts of a value -/

/-- The values directly inside a value. -/
def children : Json → List Json
  | array items => items
  | object members => members.map Prod.snd
  | _ => []

/-- A value and the values inside it. -/
inductive Contains : Json → Json → Prop where
  | itself (value : Json) : Contains value value
  | deeper {value child part : Json} (member : child ∈ value.children)
      (inside : Contains child part) : Contains value part

theorem Contains.item {items : List Json} {item part : Json} (member : item ∈ items)
    (inside : item.Contains part) : (array items).Contains part :=
  .deeper member inside

theorem Contains.member {members : List (String × Json)} {key : String} {value part : Json}
    (member : (key, value) ∈ members) (inside : value.Contains part) :
    (object members).Contains part :=
  .deeper (List.mem_map_of_mem (f := Prod.snd) member) inside

/-- What holds of a value whenever it holds of the values directly inside it holds of every
value. -/
theorem childInduction {motive : Json → Prop}
    (value : ∀ value, (∀ child ∈ value.children, motive child) → motive value) (tree : Json) :
    motive tree := by
  induction tree with
  | array items each => exact value _ each
  | object members each =>
    exact value _ (List.forall_mem_map.mpr fun entry member => each entry.1 entry.2 member)
  | _ => exact value _ nofun

theorem forall_contains {property : Json → Prop} {value : Json} :
    (∀ part, value.Contains part → property part) ↔
      property value ∧ ∀ child ∈ value.children, ∀ part, child.Contains part → property part := by
  constructor
  · intro all
    exact ⟨all value (.itself value), fun child member part inside =>
      all part (.deeper member inside)⟩
  · rintro ⟨here, below⟩ part inside
    cases inside with
    | itself => exact here
    | deeper member inside => exact below _ member part inside

theorem forall_contains_leaf {property : Json → Prop} {value : Json} (leaf : value.children = [])
    (here : property value) : ∀ part, value.Contains part → property part :=
  forall_contains.mpr ⟨here, leaf ▸ nofun⟩

mutual

/-- Whether the value and all values inside it pass a test. -/
def everyPart (test : Json → Bool) (value : Json) : Bool :=
  test value &&
    match value with
    | array items => everyItem test items
    | object members => everyMember test members
    | _ => true

/-- Whether all values in all items pass a test. -/
def everyItem (test : Json → Bool) : List Json → Bool
  | [] => true
  | item :: rest => item.everyPart test && everyItem test rest

/-- Whether all values in all members pass a test. -/
def everyMember (test : Json → Bool) : List (String × Json) → Bool
  | [] => true
  | (_, member) :: rest => member.everyPart test && everyMember test rest

end

theorem everyItem_eq_true {test : Json → Bool} {items : List Json} :
    everyItem test items = true ↔ ∀ item ∈ items, item.everyPart test = true := by
  induction items with
  | nil => exact iff_of_true rfl nofun
  | cons item rest inductionHypothesis =>
    rw [everyItem, Bool.and_eq_true, inductionHypothesis, List.forall_mem_cons]

theorem everyMember_eq_true {test : Json → Bool} {members : List (String × Json)} :
    everyMember test members = true ↔ ∀ entry ∈ members, entry.2.everyPart test = true := by
  induction members with
  | nil => exact iff_of_true rfl nofun
  | cons entry rest inductionHypothesis =>
    rw [everyMember, Bool.and_eq_true, inductionHypothesis, List.forall_mem_cons]

theorem everyPart_iff {test : Json → Bool} {value : Json} :
    value.everyPart test = true ↔
      test value = true ∧ ∀ child ∈ value.children, child.everyPart test = true := by
  rw [everyPart.eq_def, Bool.and_eq_true]
  refine and_congr_right fun _ => ?_
  cases value with
  | array items => exact everyItem_eq_true
  | object members => rw [children, List.forall_mem_map, everyMember_eq_true]
  | _ => exact iff_of_true rfl nofun

theorem everyPart_eq_true {test : Json → Bool} {value : Json} :
    value.everyPart test = true ↔ ∀ part, value.Contains part → test part = true := by
  induction value using childInduction with
  | value value inductionHypothesis =>
    rw [everyPart_iff, forall_contains]
    exact and_congr_right fun _ => forall₂_congr inductionHypothesis

instance decidableForallContains (property : Json → Prop) [DecidablePred property] (value : Json) :
    Decidable (∀ part, value.Contains part → property part) :=
  decidable_of_iff (value.everyPart (fun part => decide (property part)) = true)
    (everyPart_eq_true.trans (by simp only [decide_eq_true_eq]))

/-! ### Height -/

mutual

/-- The number of levels below a value. -/
def height : Json → Nat
  | array items => levelsOfItems items
  | object members => levelsOfMembers members
  | _ => 0

/-- The number of levels that items add below their array. -/
def levelsOfItems : List Json → Nat
  | [] => 0
  | item :: rest => max (item.height + 1) (levelsOfItems rest)

/-- The number of levels that members add below their object. -/
def levelsOfMembers : List (String × Json) → Nat
  | [] => 0
  | (_, value) :: rest => max (value.height + 1) (levelsOfMembers rest)

end

/-! ### Objects in key order -/

/-- Every object in the value has its members in key order, so no two of them have one key. -/
def KeysOrdered (value : Json) : Prop :=
  ∀ members, value.Contains (.object members) → Keyed.Ordered members

/-- If the value is an object, its members are in key order. -/
def HasOrderedMembers : Json → Prop
  | object members => Keyed.Ordered members
  | _ => True

instance : DecidablePred HasOrderedMembers
  | object members => inferInstanceAs (Decidable (Keyed.Ordered members))
  | null | bool _ | number _ | string _ | array _ => isTrue trivial

instance (value : Json) : Decidable value.KeysOrdered :=
  decidable_of_iff (∀ part, value.Contains part → part.HasOrderedMembers)
    ⟨fun all members inside => all _ inside, fun ordered part inside => by
      cases part with
      | object members => exact ordered members inside
      | _ => trivial⟩

/-- A value with all objects in key order, as the reader of texts makes them. -/
structure Ordered where
  json : Json
  ordered : json.KeysOrdered

theorem KeysOrdered.child {value child : Json} (ordered : value.KeysOrdered)
    (member : child ∈ value.children) : child.KeysOrdered :=
  fun members inside => ordered members (.deeper member inside)

theorem keysOrdered_leaf {value : Json} (leaf : value.children = [])
    (plain : ∀ members, value ≠ .object members) : value.KeysOrdered := by
  intro members inside
  cases inside with
  | itself => exact absurd rfl (plain members)
  | deeper member inside => exact absurd (leaf ▸ member) List.not_mem_nil

@[simp]
theorem keysOrdered_null : null.KeysOrdered := keysOrdered_leaf rfl nofun

@[simp]
theorem keysOrdered_bool (value : Bool) : (bool value).KeysOrdered := keysOrdered_leaf rfl nofun

@[simp]
theorem keysOrdered_number (numeral : Numeral) : (number numeral).KeysOrdered :=
  keysOrdered_leaf rfl nofun

@[simp]
theorem keysOrdered_string (text : String) : (string text).KeysOrdered := keysOrdered_leaf rfl nofun

@[simp]
theorem keysOrdered_array {items : List Json} :
    (array items).KeysOrdered ↔ ∀ item ∈ items, item.KeysOrdered := by
  refine ⟨fun ordered item member => ordered.child member, fun each members inside => ?_⟩
  cases inside with
  | deeper member inside => exact each _ member members inside

@[simp]
theorem keysOrdered_object {members : List (String × Json)} :
    (object members).KeysOrdered ↔
      Keyed.Ordered members ∧ ∀ entry ∈ members, entry.2.KeysOrdered := by
  constructor
  · exact fun ordered => ⟨ordered members (.itself _), fun entry member =>
      ordered.child (List.mem_map_of_mem member)⟩
  · rintro ⟨here, below⟩ other inside
    cases inside with
    | itself => exact here
    | deeper member inside =>
      obtain ⟨entry, found, rfl⟩ := List.mem_map.mp member
      exact below entry found other inside

/-! ### Values with related numbers -/

mutual

/-- Both values have the same structure, keys, strings and truth values, and their numbers are
related one by one. -/
def Relates (related : Numeral → Numeral → Prop) : Json → Json → Prop
  | null, null => True
  | bool first, bool second => first = second
  | number first, number second => related first second
  | string first, string second => first = second
  | array first, array second => RelatesItems related first second
  | object first, object second => RelatesMembers related first second
  | _, _ => False

/-- The items of two arrays are related one by one. -/
def RelatesItems (related : Numeral → Numeral → Prop) : List Json → List Json → Prop
  | [], [] => True
  | first :: rest, second :: rest' => first.Relates related second ∧ RelatesItems related rest rest'
  | _, _ => False

/-- The members of two objects have the same keys and related values. -/
def RelatesMembers (related : Numeral → Numeral → Prop) :
    List (String × Json) → List (String × Json) → Prop
  | [], [] => True
  | (key, first) :: rest, (key', second) :: rest' =>
    key = key' ∧ first.Relates related second ∧ RelatesMembers related rest rest'
  | _, _ => False

end

end ConsumerContract.Json
