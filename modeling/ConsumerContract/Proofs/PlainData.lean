/-
This file proves that plain JSON is compiled to itself. A value that was read
from a text becomes a tree without wrappers, so compiling it checks the depth and
nothing else: for every element it succeeds, declares nothing and gives back the
structure, the keys, the texts and the truth values. A number comes back as the
same number, in a layout that may be another one, unless it was read as a
floating-point number that is written as two decimals. A value without markers
is read in the same way where markers are looked for.
-/

import ConsumerContract.Authoring.Marker
import ConsumerContract.Encoding.Declarations
import ConsumerContract.Proofs.Compiled
import ConsumerContract.Proofs.JsonTree
import ConsumerContract.Proofs.Numbers

namespace ConsumerContract

/-! ### Leaves of numerals -/

theorem Binary.exists_numeral_of_ofNumeral? {format : BinaryFormat} {numeral : Numeral}
    {number : Binary format} (read : ofNumeral? format numeral = some number) :
    ∃ written, number.numeral? = some written := by
  unfold ofNumeral? at read
  split at read
  · rw [← Option.some.inj read]
    exact ⟨_, rfl⟩
  · cases read

namespace Numeral

/-- The numeral can be read as an exact decimal. -/
def HasDecimal (numeral : Numeral) : Prop :=
  (Decimal.ofNumeral? numeral).isSome = true

instance (numeral : Numeral) : Decidable numeral.HasDecimal :=
  inferInstanceAs (Decidable (_ = true))

/-- If the leaf of the numeral is a floating-point number, that number writes one decimal. -/
def IsKept (numeral : Numeral) : Prop :=
  ∀ number, Node.ofNumeral numeral = .scalar (.float number) → number.WritesOneDecimal

/-- The first numeral stands for the number of the second one, if and only if that is kept. -/
def Follows (written read : Numeral) : Prop :=
  written.toRat = read.toRat ↔ read.IsKept

/-- The integer that a numeral is read as stands for the same number. -/
theorem toRat_of_toInt64? {numeral : Numeral} {number : Int64}
    (read : numeral.toInt64? = some number) : numeral.toRat = number.toInt := by
  obtain ⟨value, whole, fits⟩ := Option.bind_eq_some_iff.mp read
  split at fits
  · rename_i bounds
    rw [toRat_of_toInt? whole, ← Option.some.inj fits,
      Int64.toInt_ofInt_of_le bounds.1 (Int.lt_add_one_iff.mpr bounds.2)]
  · cases fits

/-- The nodes that a numeral can be read as. Only a floating-point number is chosen for its text,
the other leaves for their number. -/
inductive HasLeaf (numeral : Numeral) : Node → Prop where
  | integer (number : Int64) (same : number.toInt = numeral.toRat) :
    HasLeaf numeral (.integer number)
  | decimal (number : Decimal) (same : number.toRat = numeral.toRat) :
    HasLeaf numeral (.decimal number)
  | float (number : Double) (written : Numeral) (sameText : number.text = numeral.text)
      (writes : number.numeral? = some written) : HasLeaf numeral (.scalar (.float number))
  | none (huge : ¬ numeral.HasDecimal) : HasLeaf numeral (.notEncodable numeral.text)

theorem hasLeaf_ofNumeral (numeral : Numeral) : numeral.HasLeaf (Node.ofNumeral numeral) := by
  unfold Node.ofNumeral
  cases whole : numeral.toInt64? with
  | some number => exact .integer number (toRat_of_toInt64? whole).symm
  | none =>
    dsimp -zeta only
    -- The exact leaf is chosen in three places, each time in the same way.
    extract_lets precise
    have exactly : numeral.HasLeaf precise := by
      unfold precise
      split
      · rename_i number read
        exact .decimal number (Decimal.toRat_of_ofNumeral? read)
      · rename_i read
        exact .none (by rw [HasDecimal, read]; decide)
    split
    · exact exactly
    · split
      · rename_i number near
        split
        · rename_i sameText
          obtain ⟨written, writes⟩ := Binary.exists_numeral_of_ofNumeral? near
          exact .float number written sameText writes
        · exact exactly
      · exact exactly

/-- A numeral without a point and an exponent is never read as a floating-point number. -/
theorem isKept_of_isWhole {numeral : Numeral} (whole : numeral.isWhole = true) :
    numeral.IsKept := by
  intro number leaf
  unfold Node.ofNumeral at leaf
  rw [whole] at leaf
  split at leaf
  · cases leaf
  · rw [if_pos rfl] at leaf
    split at leaf
    · cases leaf
    · cases leaf

theorem follows_of_isWhole {written read : Numeral} (whole : read.isWhole = true)
    (same : written.toRat = read.toRat) : written.Follows read :=
  iff_of_true same (isKept_of_isWhole whole)

/-- What a numeral is read as is invalid, or it is a leaf that is written as a numeral that
follows it. -/
theorem leaf_follows (numeral : Numeral) :
    (¬ numeral.HasDecimal ∧ Node.ofNumeral numeral = .notEncodable numeral.text) ∨
      ∃ leaf written, Node.ofNumeral numeral = .scalar leaf ∧
        (∀ path, leaf.toJson path = .ok (.number written)) ∧ written.Follows numeral := by
  have found := hasLeaf_ofNumeral numeral
  generalize read : Node.ofNumeral numeral = node at found
  cases found with
  | none huge => exact Or.inl ⟨huge, rfl⟩
  | integer number same =>
    refine Or.inr ⟨_, _, rfl, fun path => rfl, iff_of_true ?_ fun float other => ?_⟩
    · rw [toRat_ofInt, same]
    · rw [read] at other
      cases other
  | decimal number same =>
    refine Or.inr ⟨_, _, rfl, fun path => rfl, iff_of_true ?_ fun float other => ?_⟩
    · rw [Decimal.toRat_numeral, same]
    · rw [read] at other
      cases other
  | float number written sameText writes =>
    refine Or.inr ⟨_, written, rfl, fun path => ?_, ?_⟩
    · rw [Scalar.toJson, writes]
    · rw [Follows, Binary.toRat_eq_iff sameText writes, IsKept, read]
      refine ⟨?_, fun kept => kept number rfl⟩
      rintro one float same
      cases same
      exact one

/-! ### A number with two decimals -/

/-- The number `513 / 2 ^ 20` as it is written without looking at its last digit. It lies in the
middle between this decimal and the one before. -/
def halfway : Numeral :=
  ⟨false, 0, [0, 0, 0, 4, 8, 9, 2, 3, 4, 9, 2, 4, 3, 1, 6, 4, 0, 6, 3], none⟩

/-- The same number as it is written with an even last digit. -/
def halfwayEven : Numeral :=
  ⟨false, 0, [0, 0, 0, 4, 8, 9, 2, 3, 4, 9, 2, 4, 3, 1, 6, 4, 0, 6, 2], none⟩

/-- Read as a floating-point number, one of the two is written as the other. -/
theorem ofNumeral_halfway :
    ∃ leaf, Node.ofNumeral halfway = .scalar leaf ∧
      ∀ path, leaf.toJson path = .ok (.number halfwayEven) := by
  let number : Double := .finite false (513 * 2 ^ 43) 1011
  have near : Binary.ofNumeral? .double halfway = some number := by decide +kernel
  have sameText : number.text = halfway.text := by decide +kernel
  have writes : number.numeral? = some halfwayEven := by decide +kernel
  refine ⟨.float number, ?_, fun path => ?_⟩
  · rw [Node.ofNumeral, near]
    exact if_pos sameText
  · rw [Scalar.toJson, writes]

theorem toRat_halfwayEven_ne : halfwayEven.toRat ≠ halfway.toRat := by
  intro same
  have scaled :
      (halfwayEven.unscaled : ℚ) * 10 ^ (-19 : Int) = halfway.unscaled * 10 ^ (-19 : Int) := same
  have digits := Nat.cast_injective (mul_right_cancel₀ (zpow_ne_zero _ (by norm_num)) scaled)
  exact absurd digits (by decide)

end Numeral

/-! ### Values without markers -/

namespace Json

/-- If the value is a number, it can be read as an exact decimal. -/
def HasDecimal : Json → Prop
  | number numeral => numeral.HasDecimal
  | _ => True

instance : DecidablePred HasDecimal
  | number numeral => inferInstanceAs (Decidable numeral.HasDecimal)
  | null | bool _ | string _ | array _ | object _ => isTrue trivial

/-- Every number in the value can be read as an exact decimal. -/
def HasDecimals (value : Json) : Prop :=
  ∀ part, value.Contains part → part.HasDecimal

instance (value : Json) : Decidable value.HasDecimals :=
  inferInstanceAs (Decidable (∀ part, value.Contains part → part.HasDecimal))

/-- The value is not the object of a marker. -/
def IsPlain : Json → Prop
  | object members => Marker.isMarker members = false
  | _ => True

instance : DecidablePred IsPlain
  | object members => inferInstanceAs (Decidable (Marker.isMarker members = false))
  | null | bool _ | number _ | string _ | array _ => isTrue trivial

/-- No object in the value has the member of a marker. -/
def Unmarked (value : Json) : Prop :=
  ∀ part, value.Contains part → part.IsPlain

instance (value : Json) : Decidable value.Unmarked :=
  inferInstanceAs (Decidable (∀ part, value.Contains part → part.IsPlain))

end Json

namespace Node

theorem ofMembers_of_ordered {members : List (String × Node)} (ordered : Keyed.Ordered members) :
    ofMembers members = .mapping members := by
  rw [ofMembers, Keyed.ofList_of_ordered ordered]

theorem keys_ofJsonMembers (members : List (String × Json)) :
    Keyed.keys (ofJsonMembers members) = Keyed.keys members := by
  induction members with
  | nil => rfl
  | cons entry rest inductionHypothesis =>
    exact congrArg (List.cons entry.1) inductionHypothesis

theorem ofMarkedItems_eq {source : ExampleSource} {position : Nat} {items : List Json}
    (each : ∀ item ∈ items, ∀ source, ofMarkedJson source item = ofJson item) :
    ofMarkedItems source position items = ofJsonItems items := by
  induction items generalizing position with
  | nil => rfl
  | cons item rest inductionHypothesis =>
    obtain ⟨first, others⟩ := List.forall_mem_cons.mp each
    rw [ofMarkedItems, first, inductionHypothesis others, ofJsonItems]

theorem ofMarkedMembers_eq {source : ExampleSource} {position : Nat}
    {members : List (String × Json)}
    (each : ∀ entry ∈ members, ∀ source, ofMarkedJson source entry.2 = ofJson entry.2) :
    ofMarkedMembers source position members = ofJsonMembers members := by
  induction members generalizing position with
  | nil => rfl
  | cons entry rest inductionHypothesis =>
    obtain ⟨first, others⟩ := List.forall_mem_cons.mp each
    obtain ⟨key, value⟩ := entry
    rw [ofMarkedMembers, first, inductionHypothesis others, ofJsonMembers]

/-- Where there is no marker, looking for markers changes nothing. -/
theorem ofMarkedJson_eq_ofJson {value : Json} (unmarked : value.Unmarked)
    (source : ExampleSource) : ofMarkedJson source value = ofJson value := by
  induction value generalizing source with
  | array items each =>
    rw [ofMarkedJson, ofJson, ofMarkedItems_eq fun item member => each item member
      fun part inside => unmarked part (.item member inside)]
  | object members each =>
    have plain : Marker.isMarker members = false := unmarked _ (.itself _)
    rw [ofMarkedJson, ofJson, if_neg (by rw [plain]; decide), ofMarkedMembers_eq
      fun entry member => each entry.1 entry.2 member
        fun part inside => unmarked part (.member member inside)]
  | _ => rfl

/-! ### Compiling plain data -/

/-- The tree of the value is compiled within any limit that leaves room for it, to a value alone
that follows the one it was read from. -/
def CompilesAsData (value : Json) : Prop :=
  ∀ {limit depth : Nat} {element : Element} {path : Path} {repeated : Bool},
    depth + value.height ≤ limit →
      ∃ written, compileAt limit element path repeated depth (ofJson value) = .ok (.plain written) ∧
        written.Relates Numeral.Follows value

theorem compilesAsData_leaf (value written : Json) {leaf : Scalar}
    (read : ofJson value = .scalar leaf) (toJson : ∀ path, leaf.toJson path = .ok written)
    (follows : written.Relates Numeral.Follows value) : CompilesAsData value := by
  intro limit depth element path repeated fits
  refine ⟨written, ?_, follows⟩
  rw [read, compileAt_scalar (Nat.le_of_add_right_le fits), toJson]
  rfl

theorem join_empty (shared : Bool) (part : Node) (value : Json) :
    Declared.empty.join shared part (Compiled.plain value).toDeclared = .ok .empty := by
  cases shared with
  | true => rfl
  | false => rfl

theorem compileItems_ofJson {items : List Json} (each : ∀ item ∈ items, CompilesAsData item)
    {limit depth : Nat} (fits : depth + Json.levelsOfItems items ≤ limit) (element : Element)
    (path : Path) (shared : Bool) (position : Nat) :
    ∃ written, compileItems limit element path shared depth position .empty (ofJsonItems items) =
        .ok (.empty, written) ∧ Json.RelatesItems Numeral.Follows written items := by
  induction items generalizing position with
  | nil => exact ⟨[], rfl, trivial⟩
  | cons item rest inductionHypothesis =>
    obtain ⟨first, others⟩ := List.forall_mem_cons.mp each
    rw [Json.levelsOfItems] at fits
    obtain ⟨value, compiled, follows⟩ :=
      @first limit (depth + 1) element (path.item shared position) false (by omega)
    obtain ⟨values, compiledRest, followsRest⟩ :=
      inductionHypothesis others (by omega) (position + 1)
    refine ⟨value :: values, ?_, follows, followsRest⟩
    rw [ofJsonItems, compileItems_cons]
    simp only [bind_eq_ok]
    exact ⟨_, compiled, _, join_empty _ _ _, _, compiledRest, rfl⟩

theorem compileMembers_ofJson {members : List (String × Json)}
    (each : ∀ entry ∈ members, CompilesAsData entry.2) {limit depth : Nat}
    (fits : depth + Json.levelsOfMembers members ≤ limit) (element : Element) (path : Path) :
    ∃ written, compileMembers limit element path depth .empty (ofJsonMembers members) =
        .ok (.empty, written) ∧ Json.RelatesMembers Numeral.Follows written members := by
  induction members with
  | nil => exact ⟨[], rfl, trivial⟩
  | cons entry rest inductionHypothesis =>
    obtain ⟨key, member⟩ := entry
    have first : CompilesAsData member := each (key, member) List.mem_cons_self
    rw [Json.levelsOfMembers] at fits
    obtain ⟨value, compiled, follows⟩ :=
      @first limit (depth + 1) element (path.child (.key key)) false (by omega)
    obtain ⟨values, compiledRest, followsRest⟩ :=
      inductionHypothesis (fun other later => each other (List.mem_cons_of_mem _ later)) (by omega)
    refine ⟨(key, value) :: values, ?_, rfl, follows, followsRest⟩
    rw [ofJsonMembers, compileMembers_cons]
    simp only [bind_eq_ok]
    exact ⟨_, compiled, _, join_empty _ _ _, _, compiledRest, rfl⟩

/-- Every value in key order whose numbers have decimals is compiled as data. -/
theorem compilesAsData {value : Json.Ordered} (decimals : value.json.HasDecimals) :
    CompilesAsData value.json := by
  obtain ⟨value, ordered⟩ := value
  dsimp only at decimals ⊢
  induction value with
  | null => exact compilesAsData_leaf .null .null rfl (fun path => rfl) trivial
  | bool value => exact compilesAsData_leaf (.bool value) (.bool value) rfl (fun path => rfl) rfl
  | string text =>
    exact compilesAsData_leaf (.string text) (.string text) rfl (fun path => rfl) rfl
  | number numeral =>
    obtain ⟨leaf, written, read, toJson, follows⟩ :=
      numeral.leaf_follows.resolve_left fun huge => huge.1 (decimals _ (.itself _))
    exact compilesAsData_leaf (.number numeral) (.number written) read toJson follows
  | array items each =>
    intro limit depth element path repeated fits
    rw [Json.height] at fits
    obtain ⟨written, compiled, follows⟩ := compileItems_ofJson
      (fun item member => each item member (ordered.child member) fun part inside =>
        decimals part (.item member inside))
      fits element path (repeated || element.sharesItems) 0
    refine ⟨.array written, ?_, follows⟩
    rw [ofJson, compileAt_sequence (Nat.le_of_add_right_le fits), compiled]
    rfl
  | object members each =>
    intro limit depth element path repeated fits
    rw [Json.height] at fits
    have inKeyOrder : Keyed.Ordered members := ordered members (.itself _)
    obtain ⟨written, compiled, follows⟩ := compileMembers_ofJson
      (fun entry member => each entry.1 entry.2 member
        (ordered.child (List.mem_map_of_mem member)) fun part inside =>
          decimals part (.member member inside))
      fits element path
    refine ⟨.object written, ?_, follows⟩
    rw [ofJson, ofMembers_of_ordered, compileAt_mapping (Nat.le_of_add_right_le fits), compiled]
    · rfl
    · rwa [Keyed.Ordered, keys_ofJsonMembers]

/-- Plain JSON can be encoded for every element, within any limit that leaves room for it. It
declares nothing, and its value follows the one it was read from: it differs at most in the
layout of numbers, and it has another number exactly where a floating-point number is written
as two decimals. Looking for markers where there is none gives the same tree. -/
theorem encode_ofJson_follows (value : Json.Ordered) (decimals : value.json.HasDecimals)
    (maxDepth : Nat) (fits : value.json.height ≤ maxDepth) (element : Element) :
    (∃ written, (ofJson value.json).encode element maxDepth = .ok ⟨element, written, none, none⟩ ∧
        written.Relates Numeral.Follows value.json) ∧
      (value.json.Unmarked →
        ∀ source, ofMarkedJson source value.json = ofJson value.json) := by
  refine ⟨?_, ofMarkedJson_eq_ofJson⟩
  have data : CompilesAsData value.json := compilesAsData decimals
  obtain ⟨written, compiled, follows⟩ :=
    @data maxDepth 0 element element.root false (by omega)
  refine ⟨written, ?_, follows⟩
  rw [encode, compile, compiled]
  rfl

/-- A price in a list keeps its last zero in a query. -/
theorem encode_ofJson_follows_of_price :
    let source : ExampleSource := ⟨fun _ => 0, default⟩
    let price := Json.number ⟨false, 19, [9, 0], none⟩
    let order : Json.Ordered :=
      ⟨.object [("id", .ofInt 7), ("prices", .array [price, .null])], by decide⟩
    order.json.HasDecimals ∧ order.json.height ≤ 2 ∧ order.json.Unmarked ∧
      ∃ written, (ofJson order.json).encode .query 2 = .ok ⟨.query, written, none, none⟩ ∧
        written.Relates Numeral.Follows order.json ∧
          ofMarkedJson source order.json = ofJson order.json := by
  intro source price order
  have decimals : order.json.HasDecimals := by decide
  have unmarked : order.json.Unmarked := by decide
  obtain ⟨⟨written, encoded, follows⟩, read⟩ :=
    encode_ofJson_follows order decimals 2 (by decide) .query
  exact ⟨decimals, by decide, unmarked, written, encoded, follows, read unmarked source⟩

/-- A number that lies in the middle between two decimals comes back as another number. -/
theorem plain_number_changed :
    let value : Json.Ordered := ⟨.number .halfway, by decide⟩
    value.json.HasDecimals ∧ value.json.Unmarked ∧
      (ofJson value.json).encode .body 0 = .ok ⟨.body, .number .halfwayEven, none, none⟩ ∧
        Numeral.halfwayEven.toRat ≠ Numeral.halfway.toRat := by
  intro value
  obtain ⟨leaf, read, toJson⟩ := Numeral.ofNumeral_halfway
  refine ⟨by decide, by decide, ?_, Numeral.toRat_halfwayEven_ne⟩
  rw [ofJson, read, encode, compile, compileAt_scalar (Nat.zero_le 0), toJson]
  rfl

end Node

end ConsumerContract
