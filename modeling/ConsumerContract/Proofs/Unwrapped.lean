/-
This file proves that markers never leak into examples. A value can be unwrapped
without looking at nodes: a marker is replaced by its unwrapped value, with three
exceptions that depend on the matcher. If a tree that was authored as JSON can be
encoded, its value is the unwrapped one, for every element, and only numbers may
have another layout. No marker is left in it.
-/

import ConsumerContract.Proofs.Markers

namespace ConsumerContract

/-! ### Unwrapping -/

namespace Marker

/-- The code that a status marker is shown with: one in the class, or the first of a list. -/
def exampleCode (fields : MarkerFields) : Json :=
  match Keyed.find? "status" fields with
  | some (.string name) =>
    match StatusClass.ofName? name with
    | some statusClass => .ofNat statusClass.sampleCode.toNat
    | none => .null
  | some (.array (.number code :: _)) => .number code
  | _ => .null

/-- The example of a marker, given its members without their markers. A repetition of a value
that is not an array is shown as an array with that value alone. -/
def unwrapped (fields : MarkerFields) (members : List (String × Json)) : Json :=
  let value := (Keyed.find? "value" members).getD .null
  if Repeats fields then
    match Keyed.find? "value" fields with
    | some (.array _) => value
    | _ => .array [value]
  else if kind? fields matcherKey = some "arrayContains" then
    (Keyed.find? "variants" members).getD .null
  else if kind? fields matcherKey = some "statusCode" then exampleCode fields
  else value

end Marker

namespace Json

mutual

/-- A value with every marker replaced by its example. -/
def unwrapped : Json → Json
  | array items => array (unwrappedItems items)
  | object members =>
    let values := unwrappedMembers members
    if Marker.isMarker members then Marker.unwrapped members values else object values
  | value => value

/-- Each item without markers. -/
def unwrappedItems : List Json → List Json
  | [] => []
  | item :: rest => item.unwrapped :: unwrappedItems rest

/-- Each member without markers. -/
def unwrappedMembers : List (String × Json) → List (String × Json)
  | [] => []
  | (key, value) :: rest => (key, value.unwrapped) :: unwrappedMembers rest

end

theorem unwrappedItems_eq_map (items : List Json) : unwrappedItems items = items.map unwrapped := by
  induction items with
  | nil => rfl
  | cons item rest inductionHypothesis => rw [unwrappedItems, inductionHypothesis, List.map_cons]

theorem unwrappedMembers_eq_map (members : List (String × Json)) :
    unwrappedMembers members = members.map fun entry => (entry.1, entry.2.unwrapped) := by
  induction members with
  | nil => rfl
  | cons entry rest inductionHypothesis =>
    obtain ⟨key, value⟩ := entry
    rw [unwrappedMembers, inductionHypothesis, List.map_cons]

theorem find?_unwrappedMembers (key : String) (members : List (String × Json)) :
    Keyed.find? key (unwrappedMembers members) = (Keyed.find? key members).map unwrapped := by
  rw [unwrappedMembers_eq_map, Keyed.find?_map]

/-! ### Values without markers are left -/

/-- Markers are told by keys alone. -/
theorem isMarker_of_keys {first second : List (String × Json)}
    (same : Keyed.keys first = Keyed.keys second) :
    Marker.isMarker first = Marker.isMarker second := by
  rw [Bool.eq_iff_iff, Marker.isMarker, Marker.isMarker, Bool.or_eq_true, Bool.or_eq_true]
  simp only [Keyed.contains_eq_true, same]

theorem unmarked_leaf {value : Json} (leaf : value.children = []) (plain : value.IsPlain) :
    value.Unmarked :=
  forall_contains_leaf leaf plain

theorem unmarked_array {items : List Json} :
    (array items).Unmarked ↔ ∀ item ∈ items, item.Unmarked :=
  forall_contains.trans (and_iff_right trivial)

theorem unmarked_object {members : List (String × Json)} :
    (object members).Unmarked ↔
      Marker.isMarker members = false ∧ ∀ entry ∈ members, entry.2.Unmarked := by
  rw [Unmarked, forall_contains, children, List.forall_mem_map]
  exact Iff.rfl

theorem unmarked_exampleCode (fields : MarkerFields) : (Marker.exampleCode fields).Unmarked := by
  unfold Marker.exampleCode
  split
  · split
    · exact unmarked_leaf rfl trivial
    · exact unmarked_leaf rfl trivial
  · exact unmarked_leaf rfl trivial
  · exact unmarked_leaf rfl trivial

/-- Unwrapping leaves no marker. -/
theorem unmarked_unwrapped (value : Json) : value.unwrapped.Unmarked := by
  induction value with
  | null => exact unmarked_leaf rfl trivial
  | bool value => exact unmarked_leaf rfl trivial
  | number numeral => exact unmarked_leaf rfl trivial
  | string text => exact unmarked_leaf rfl trivial
  | array items each =>
    rw [unwrapped, unwrappedItems_eq_map]
    exact unmarked_array.mpr (List.forall_mem_map.mpr each)
  | object members each =>
    have found (key : String) :
        ((Keyed.find? key (unwrappedMembers members)).getD .null).Unmarked := by
      rw [find?_unwrappedMembers]
      cases given : Keyed.find? key members with
      | none => exact unmarked_leaf rfl trivial
      | some value => exact each key value (Keyed.mem_of_find? given)
    rw [unwrapped]
    split
    · unfold Marker.unwrapped
      split
      · split
        · exact found "value"
        · exact unmarked_array.mpr (List.forall_mem_singleton.mpr (found "value"))
      split
      · exact found "variants"
      split
      · exact unmarked_exampleCode members
      · exact found "value"
    · rename_i plain
      rw [unwrappedMembers_eq_map]
      refine unmarked_object.mpr ⟨?_, List.forall_mem_map.mpr fun entry => each entry.1 entry.2⟩
      rw [isMarker_of_keys (Keyed.keys_map unwrapped members)]
      exact Bool.eq_false_iff.mpr plain

section Relates

variable {related : Numeral → Numeral → Prop}

theorem RelatesItems.unmarked {first second : List Json}
    (each : ∀ item ∈ first, ∀ {other : Json}, item.Relates related other → other.Unmarked →
      item.Unmarked) (relates : RelatesItems related first second)
    (unmarked : ∀ item ∈ second, item.Unmarked) : ∀ item ∈ first, item.Unmarked := by
  induction first generalizing second with
  | nil => exact nofun
  | cons item rest inductionHypothesis =>
    cases second with
    | nil => exact relates.elim
    | cons item' rest' =>
      obtain ⟨here, others⟩ := List.forall_mem_cons.mp unmarked
      exact List.forall_mem_cons.mpr ⟨each item List.mem_cons_self relates.1 here,
        inductionHypothesis (fun other later => each other (List.mem_cons_of_mem _ later))
          relates.2 others⟩

theorem RelatesMembers.keys_eq {first second : List (String × Json)}
    (relates : RelatesMembers related first second) : Keyed.keys first = Keyed.keys second := by
  induction first generalizing second with
  | nil =>
    cases second with
    | nil => rfl
    | cons entry rest => exact relates.elim
  | cons entry rest inductionHypothesis =>
    cases second with
    | nil => exact relates.elim
    | cons entry' rest' => exact congrArg₂ List.cons relates.1 (inductionHypothesis relates.2.2)

theorem RelatesMembers.unmarked {first second : List (String × Json)}
    (each : ∀ key value, (key, value) ∈ first → ∀ {other : Json}, value.Relates related other →
      other.Unmarked → value.Unmarked) (relates : RelatesMembers related first second)
    (unmarked : ∀ entry ∈ second, entry.2.Unmarked) : ∀ entry ∈ first, entry.2.Unmarked := by
  induction first generalizing second with
  | nil => exact nofun
  | cons entry rest inductionHypothesis =>
    cases second with
    | nil => exact relates.elim
    | cons entry' rest' =>
      obtain ⟨here, others⟩ := List.forall_mem_cons.mp unmarked
      exact List.forall_mem_cons.mpr ⟨each entry.1 entry.2 List.mem_cons_self relates.2.1 here,
        inductionHypothesis (fun key other later => each key other (List.mem_cons_of_mem _ later))
          relates.2.2 others⟩

/-- Related values have the same keys, so they are both without markers. -/
theorem Relates.unmarked {first second : Json} (relates : first.Relates related second)
    (unmarked : second.Unmarked) : first.Unmarked := by
  induction first generalizing second with
  | array items each =>
    cases second with
    | array items' =>
      exact unmarked_array.mpr (RelatesItems.unmarked each relates (unmarked_array.mp unmarked))
    | _ => exact relates.elim
  | object members each =>
    cases second with
    | object members' =>
      obtain ⟨plain, others⟩ := unmarked_object.mp unmarked
      refine unmarked_object.mpr ⟨?_, RelatesMembers.unmarked each relates others⟩
      rw [isMarker_of_keys relates.keys_eq, plain]
    | _ => exact relates.elim
  | _ => exact unmarked_leaf rfl trivial

end Relates

end Json

/-! ### Examples of status markers -/

theorem Numeral.toRat_ofNat (number : Nat) : (ofNat number).toRat = number := by
  have natural : ofNat number = ofInt number := by
    rw [ofNat, ofInt, Int.natAbs_natCast, decide_eq_false (by omega)]
  rw [natural, toRat_ofInt, Int.cast_natCast]

namespace Marker

/-- A code in a list is written as the number it was read from. -/
theorem statusCode?_follows {code : Json} {status : UInt16}
    (read : statusCode? code = some status) :
    ∃ numeral, code = .number numeral ∧ numeral.isWhole = true ∧
      numeral.toRat = status.toNat := by
  obtain ⟨number, given, fits⟩ := Option.bind_eq_some_iff.mp read
  cases code with
  | number numeral =>
    obtain ⟨⟨whole, positive, small⟩, same⟩ := Option.ite_none_right_eq_some.mp given
    obtain ⟨below, sameStatus⟩ := Option.ite_none_right_eq_some.mp fits
    refine ⟨numeral, rfl, whole, ?_⟩
    have read : numeral.toInt? = some (numeral.whole : Int) := by
      rw [Numeral.toInt?, if_pos whole, positive]
      rfl
    have sameWord : (UInt64.ofNat numeral.whole).toNat = numeral.whole :=
      UInt64.toNat_ofNat_of_lt' small
    rw [← Option.some.inj same, sameWord] at below sameStatus
    rw [Numeral.toRat_of_toInt? read, Int.cast_natCast, ← Option.some.inj sameStatus,
      UInt16.toNat_ofNat_of_lt' below]
  | _ => cases given

theorem toRat_sampleCode (code : UInt16) :
    (Numeral.ofInt (Int64.ofNat code.toNat).toInt).toRat = code.toNat := by
  have small : code.toNat < 2 ^ 63 := Nat.lt_trans code.toNat_lt (by decide)
  rw [Int64.toInt_ofNat_of_lt small, Numeral.toRat_ofInt, Int.cast_natCast]

/-- A status marker is shown with its example code. -/
theorem exampleCode_follows {fields : MarkerFields} {status : StatusRange} {code : UInt16}
    (read : statusRange "statusCode" fields = .ok status)
    (usable : status.sampleCode? = some code) :
    (Json.ofInt (Int64.ofNat code.toNat).toInt).Relates Numeral.Follows (exampleCode fields) := by
  unfold statusRange at read
  unfold exampleCode
  split at read
  · split at read
    · rename_i name given _ statusClass named
      rw [given]
      dsimp only
      rw [named]
      obtain rfl := Except.ok.inj read
      obtain rfl := Option.some.inj usable
      exact Numeral.follows_of_isWhole rfl ((toRat_sampleCode _).trans (Numeral.toRat_ofNat _).symm)
    · cases read
  · split at read
    · rename_i codes given _ listed each
      obtain rfl := Except.ok.inj read
      obtain ⟨others, rfl⟩ := List.head?_eq_some_iff.mp usable
      cases codes with
      | nil => cases each
      | cons first rest =>
        rw [List.mapM_cons] at each
        obtain ⟨status, readFirst, each⟩ := Option.bind_eq_some_iff.mp each
        obtain ⟨statuses, _, each⟩ := Option.bind_eq_some_iff.mp each
        obtain ⟨rfl, rfl⟩ := List.cons.inj (Option.some.inj each)
        obtain ⟨numeral, rfl, whole, same⟩ := statusCode?_follows readFirst
        rw [given]
        exact Numeral.follows_of_isWhole whole ((toRat_sampleCode _).trans same.symm)
    · cases read
  · cases read

end Marker

/-! ### Compiled values -/

namespace Json

/-- If the value is a marker that shows its value, it has one. -/
def HasValue : Json → Prop
  | object members =>
    Marker.isMarker members = true → ¬ Marker.IgnoresValue members →
      Keyed.contains "value" members = true
  | _ => True

instance : DecidablePred HasValue
  | object members =>
    inferInstanceAs (Decidable (Marker.isMarker members = true → ¬ Marker.IgnoresValue members →
      Keyed.contains "value" members = true))
  | null | bool _ | number _ | string _ | array _ => isTrue trivial

/-- Every marker in the value has a value of its own, if it shows that. -/
def ValuesGiven (value : Json) : Prop :=
  ∀ part, value.Contains part → part.HasValue

instance (value : Json) : Decidable value.ValuesGiven :=
  inferInstanceAs (Decidable (∀ part, value.Contains part → part.HasValue))

end Json

namespace Node

variable {source : ExampleSource}

theorem ofMarkedJson_ne_sequence {value : Json} (noArray : ∀ items, value ≠ .array items)
    (items : List Node) : ofMarkedJson source value ≠ .sequence items := by
  intro same
  cases value with
  | array given => exact noArray given rfl
  | number numeral =>
    rw [ofMarkedJson] at same
    rcases numeral.leaf_follows with ⟨_, read⟩ | ⟨leaf, written, read, _⟩
    · cases read.symm.trans same
    · cases read.symm.trans same
  | object members =>
    cases marked : Marker.isMarker members with
    | false =>
      rw [ofMarkedJson, marked] at same
      cases same
    | true =>
      rcases standsFor_of_marker marked with invalid | ⟨sample, variants, stands⟩
      · rw [same] at invalid
        exact invalid
      · rw [same] at stands
        cases stands
  | null => cases same
  | bool value => cases same
  | string text => cases same

/-- A repetition is shown as the array that its value is, or with that value as its only item. -/
theorem stripped_repetition_marked (value : Json) (min max : Option UInt64) :
    (repetition (Matcher.asCollection (ofMarkedJson source value)) min max).stripped =
      match value with
      | .array _ => (ofMarkedJson source value).stripped
      | _ => .array [(ofMarkedJson source value).stripped] := by
  split
  · rfl
  · rename_i noArray
    have single := @ofMarkedJson_ne_sequence source value fun items => noArray items
    generalize ofMarkedJson source value = inner at single
    cases inner with
    | sequence items => exact absurd rfl (single items)
    | _ => rfl

/-- The value is shown without its markers wherever its tree is valid. -/
def IsShown (value : Json) : Prop :=
  ∀ source, (ofMarkedJson source value).Valid →
    (ofMarkedJson source value).stripped.Relates Numeral.Follows value.unwrapped

theorem isShown_number (numeral : Numeral) : IsShown (.number numeral) := by
  intro source valid
  rw [ofMarkedJson] at valid ⊢
  rcases numeral.leaf_follows with ⟨_, read⟩ | ⟨leaf, written, read, toJson, follows⟩
  · rw [read] at valid
    exact absurd valid (not_valid_invalid _ _)
  · rw [read, stripped, ← Scalar.stripped_of_toJson (toJson .body)]
    exact follows

theorem strippedItems_follow {position : Nat} {items : List Json}
    (each : ∀ item ∈ items, IsShown item)
    (valid : ∀ node ∈ ofMarkedItems source position items, node.Valid) :
    Json.RelatesItems Numeral.Follows (strippedItems (ofMarkedItems source position items))
      (Json.unwrappedItems items) := by
  induction items generalizing position with
  | nil => trivial
  | cons item rest inductionHypothesis =>
    rw [ofMarkedItems] at valid ⊢
    obtain ⟨here, others⟩ := List.forall_mem_cons.mp valid
    exact ⟨each item List.mem_cons_self _ here,
      inductionHypothesis (fun other later => each other (List.mem_cons_of_mem _ later)) others⟩

theorem strippedMembers_follow {position : Nat} {members : List (String × Json)}
    (each : ∀ key value, (key, value) ∈ members → IsShown value)
    (valid : ∀ entry ∈ ofMarkedMembers source position members, entry.2.Valid) :
    Json.RelatesMembers Numeral.Follows (strippedMembers (ofMarkedMembers source position members))
      (Json.unwrappedMembers members) := by
  induction members generalizing position with
  | nil => trivial
  | cons entry rest inductionHypothesis =>
    obtain ⟨key, value⟩ := entry
    rw [ofMarkedMembers] at valid ⊢
    obtain ⟨here, others⟩ := List.forall_mem_cons.mp valid
    exact ⟨rfl, each key value List.mem_cons_self _ here,
      inductionHypothesis (fun other value later => each other value
        (List.mem_cons_of_mem _ later)) others⟩

/-- The node of a marker shows what the marker is unwrapped to. -/
theorem stripped_marker_follows {fields : MarkerFields} {sample variants : ExampleSource}
    {node : Node}
    (shown : Marker.Shows fields ((Keyed.find? "value" fields).map (ofMarkedJson sample))
      (((Keyed.find? "variants" fields).map (ofMarkedJson variants)).bind Marker.sequenceItems?)
      node)
    (given : ¬ Marker.IgnoresValue fields → Keyed.contains "value" fields = true)
    (each : ∀ key value, (key, value) ∈ fields → IsShown value) (valid : node.Valid) :
    node.stripped.Relates Numeral.Follows
      (Marker.unwrapped fields (Json.unwrappedMembers fields)) := by
  have follows {key : String} {value : Json} (found : Keyed.find? key fields = some value)
      {inner : ExampleSource} (valid : (ofMarkedJson inner value).Valid) :
      (ofMarkedJson inner value).stripped.Relates Numeral.Follows
        ((Keyed.find? key (Json.unwrappedMembers fields)).getD .null) := by
    rw [Json.find?_unwrappedMembers, found]
    exact each key value (Keyed.mem_of_find? found) inner valid
  have whole := shown
  unfold Marker.unwrapped
  cases shown with
  | repeated repeats same =>
    obtain ⟨value, found, rfl⟩ := Option.map_eq_some_iff.mp same
    have inner := follows found (whole.valid_of_sample repeats.not_ignoresValue valid same)
    rw [if_pos repeats, found, stripped_repetition_marked]
    cases value with
    | array items => exact inner
    | _ => exact ⟨inner, trivial⟩
  | wrapped once heeds around =>
    obtain ⟨value, found⟩ := Option.isSome_iff_exists.mp (given heeds)
    have same : (Keyed.find? "value" fields).map (ofMarkedJson sample) =
        some (ofMarkedJson sample value) := by
      rw [found]
      rfl
    obtain ⟨notVaried, notStatus⟩ := not_or.mp heeds
    rw [if_neg once, if_neg notVaried, if_neg notStatus, stripped_of_sample? (around _ same)]
    exact follows found (whole.valid_of_sample heeds valid same)
  | varied named same =>
    obtain ⟨inner, given, shape⟩ := Option.bind_eq_some_iff.mp same
    obtain ⟨value, found, rfl⟩ := Option.map_eq_some_iff.mp given
    have sequence := sequenceItems?_eq_some.mp shape
    have once : ¬ Marker.Repeats fields := fun repeats =>
      repeats.not_ignoresValue (Or.inl named)
    have inner := follows found (sequence ▸ valid_sequence_of_arrayContains valid)
    rw [sequence] at inner
    rw [if_neg once, if_pos named]
    exact inner
  | status named read usable =>
    have once : ¬ Marker.Repeats fields := fun repeats =>
      repeats.not_ignoresValue (Or.inr named)
    rw [if_neg once, if_neg (by rw [named]; decide), if_pos named]
    exact Marker.exampleCode_follows read usable

/-- Every valid tree that was read from a value shows the value without its markers. -/
theorem isShown {value : Json.Ordered} (given : value.json.ValuesGiven) : IsShown value.json := by
  obtain ⟨value, ordered⟩ := value
  dsimp only at given ⊢
  induction value with
  | null => exact fun source valid => trivial
  | bool value => exact fun source valid => rfl
  | string text => exact fun source valid => rfl
  | number numeral => exact isShown_number numeral
  | array items each =>
    intro source valid
    rw [ofMarkedJson] at valid ⊢
    exact strippedItems_follow (fun item member => each item member (ordered.child member)
      fun part inside => given part (.item member inside)) fun node member => valid.child member
  | object members each =>
    have inner key value (member : (key, value) ∈ members) : IsShown value :=
      each key value member (ordered.child (List.mem_map_of_mem member))
        fun part inside => given part (.member member inside)
    intro source valid
    cases marked : Marker.isMarker members with
    | false =>
      rw [ofMarkedJson_object marked (ordered members (.itself _))] at valid ⊢
      rw [Json.unwrapped, if_neg (by rw [marked]; decide)]
      exact strippedMembers_follow inner fun entry member =>
        valid.child (List.mem_map_of_mem member)
    | true =>
      rcases standsFor_of_marker marked with invalid | ⟨sample, variants, stands⟩
      · exact absurd invalid (valid _ (.itself _))
      · rw [Json.unwrapped, if_pos marked]
        exact stripped_marker_follows stands.shows (given _ (.itself _) marked) inner valid

/-- A tree that was authored as JSON and can be encoded has the unwrapped value, for every
element: only numbers may have another layout, and a number is another one exactly where a
floating-point number is written as two decimals. So no marker is left in the value. -/
theorem encode_ofMarkedJson_follows (value : Json.Ordered) (given : value.json.ValuesGiven)
    (source : ExampleSource) (element : Element) (maxDepth : Nat) (encoded : EncodedElement)
    (success : (ofMarkedJson source value.json).encode element maxDepth = .ok encoded) :
    encoded.value.Relates Numeral.Follows value.json.unwrapped ∧ encoded.value.Unmarked := by
  have follows : encoded.value.Relates Numeral.Follows value.json.unwrapped := by
    rw [value_of_encode success]
    exact isShown given source (valid_of_encode success)
  exact ⟨follows, follows.unmarked value.json.unmarked_unwrapped⟩

/-- A generated number that is repeated becomes the one item of an array, beside a status. -/
theorem encode_ofMarkedJson_follows_of_ids :
    let source : ExampleSource := ⟨fun _ => 0, default⟩
    let number := Json.object
      [("pact:generator:type", .string "RandomInt"), ("value", .ofInt 5)]
    let ids := Json.object [("pact:matcher:type", .string "eachLike"), ("value", number)]
    let status := Json.object
      [("pact:matcher:type", .string "statusCode"), ("status", .string "success")]
    let value : Json.Ordered := ⟨.object [("ids", ids), ("status", status)], by decide⟩
    value.json.ValuesGiven ∧
      value.json.unwrapped = .object [("ids", .array [.ofInt 5]), ("status", .ofNat 200)] ∧
        ∃ encoded, (ofMarkedJson source value.json).encode .body 4 = .ok encoded ∧
          encoded.value.Relates Numeral.Follows value.json.unwrapped ∧ encoded.value.Unmarked := by
  intro source number ids status value
  have given : value.json.ValuesGiven := by decide
  have accepted : ((ofMarkedJson source value.json).encode .body 4).isOk = true := by decide +kernel
  cases outcome : (ofMarkedJson source value.json).encode .body 4 with
  | error failure =>
    rw [outcome] at accepted
    cases accepted
  | ok encoded =>
    exact ⟨given, rfl, encoded, rfl,
      encode_ofMarkedJson_follows value given source .body 4 encoded outcome⟩

/-- The value of a marker that lies in the middle between two decimals is another one in the
compiled value. -/
theorem marked_number_changed :
    let source : ExampleSource := ⟨fun _ => 0, default⟩
    let value : Json.Ordered :=
      ⟨.object [("pact:matcher:type", .string "number"), ("value", .number .halfway)], by decide⟩
    value.json.ValuesGiven ∧ value.json.unwrapped = .number .halfway ∧
      ∃ encoded, (ofMarkedJson source value.json).encode .body 1 = .ok encoded ∧
        encoded.value = .number .halfwayEven ∧
          Numeral.halfwayEven.toRat ≠ Numeral.halfway.toRat := by
  intro source value
  obtain ⟨leaf, read, toJson⟩ := Numeral.ofNumeral_halfway
  have tree : ofMarkedJson source value.json = Matcher.single .number (.scalar leaf) := by
    rw [← read]
    rfl
  have inner : compileAt 1 .body .body false (0 + 1) (.scalar leaf) =
      .ok (.plain (.number .halfwayEven)) := by
    rw [compileAt_scalar (Nat.le_refl 1), toJson]
    rfl
  refine ⟨by decide, rfl,
    ⟨.body, .number .halfwayEven, some (.byPath [("$", ⟨[.number], none⟩)]), none⟩, ?_, rfl,
    Numeral.toRat_halfwayEven_ne⟩
  rw [tree, encode, compile, Matcher.single, compileAt_matcher (Nat.zero_le 1)]
  simp only [bind_eq_ok]
  exact ⟨_, ⟨_, rfl, _, rfl, _, inner, rfl⟩, rfl⟩

end Node

end ConsumerContract
