/-
This file proves that there are two ways to write a matcher, and that they agree. A
marker without a generator names a kind of matcher and gives its parameters beside
the example; for each kind there is a constructor that takes the same. Both give the
same tree, so they are compiled alike wherever they lie. There is one exception: the
constructors of inclusions record how their texts combine, and a marker for an
inclusion does not.
-/

import ConsumerContract.Proofs.Markers

namespace ConsumerContract

/-- A call with a format is accepted only if the format can be read. -/
theorem Matcher.withFormat_of_accepted {call value format : String} {node : Node}
    (accepted : ¬ (withFormat call value format node).IsInvalid) :
    ∃ pattern, DatePattern.ofText format = .ok pattern ∧
      withFormat call value format node = node := by
  unfold withFormat at accepted ⊢
  cases read : DatePattern.ofText format with
  | ok pattern => exact ⟨pattern, rfl, rfl⟩
  | error fault =>
    rw [read] at accepted
    exact absurd trivial accepted

namespace Marker

/-! ### Parameters of markers -/

section Parameters

variable (source : ExampleSource) (fields : MarkerFields)

/-- The tree that is written under a key of a marker. -/
def tree? (key : String) : Option Node :=
  Keyed.find? key (Node.ofMarkedMembers source 0 fields)

/-- The bound of a repetition. One that is left out or null does not bound. -/
def GivesBound (key : String) : Option UInt64 → Prop
  | some count => (Keyed.find? key fields).bind Json.toUInt64? = some count
  | none => Keyed.find? key fields = none ∨ Keyed.find? key fields = some .null

/-- The statuses that are written as the name of a class or as a list of codes. -/
def GivesStatus : StatusRange → Prop
  | .statusClass name => Keyed.find? "status" fields = some (.string name.name)
  | .codes codes =>
    ∃ written, Keyed.find? "status" fields = some (.array written) ∧
      written.map Json.toUInt64? = codes.map fun code => some code.toUInt64

/-- The marker is another way to write what a constructor of matchers makes: it is of that kind,
has the same parameters, and the same example as its value. -/
inductive Writes : Node → Prop where
  | like {sample : Node} (named : kind? fields matcherKey = some "type")
    (once : ¬ Repeats fields) (given : tree? source fields "value" = some sample) :
    Writes (Matcher.like sample)
  | equalTo {sample : Node} (named : kind? fields matcherKey = some "equality")
    (given : tree? source fields "value" = some sample) : Writes (Matcher.equalTo sample)
  | integer {value : Int64} (named : kind? fields matcherKey = some "integer")
    (given : (Keyed.find? "value" fields).bind Json.toInt64? = some value) :
    Writes (Matcher.integer value)
  | decimal {sample : Node} (named : kind? fields matcherKey = some "decimal")
    (given : tree? source fields "value" = some sample) : Writes (Matcher.decimal sample)
  | number {sample : Node} (named : kind? fields matcherKey = some "number")
    (given : tree? source fields "value" = some sample) : Writes (Matcher.number sample)
  | null (named : kind? fields matcherKey = some "null")
    (given : Keyed.find? "value" fields = some .null) : Writes Matcher.null
  | boolean {value : Bool} (named : kind? fields matcherKey = some "boolean")
    (given : Keyed.find? "value" fields = some (.bool value)) : Writes (Matcher.boolean value)
  | notEmpty {sample : Node} (named : kind? fields matcherKey = some "notEmpty")
    (given : tree? source fields "value" = some sample) : Writes (Matcher.notEmpty sample)
  | semver {value : String} (named : kind? fields matcherKey = some "semver")
    (given : Keyed.find? "value" fields = some (.string value)) : Writes (Matcher.semver value)
  | regex {pattern value : String} (named : kind? fields matcherKey = some "regex")
    (described : Keyed.find? "regex" fields = some (.string pattern))
    (given : Keyed.find? "value" fields = some (.string value)) :
    Writes (Matcher.regex pattern value)
  | includes {value : String} {combine : Combination}
    (named : kind? fields matcherKey = some "include")
    (given : Keyed.find? "value" fields = some (.string value)) :
    Writes (Matcher.includes [value] combine)
  | datetime {format value : String}
    (named : kind? fields matcherKey = some "timestamp" ∨
      kind? fields matcherKey = some "datetime")
    (described : Keyed.find? "format" fields = some (.string format))
    (given : Keyed.find? "value" fields = some (.string value)) :
    Writes (Matcher.datetime value format)
  | date {format value : String} (named : kind? fields matcherKey = some "date")
    (described : Keyed.find? "format" fields = some (.string format))
    (given : Keyed.find? "value" fields = some (.string value)) :
    Writes (Matcher.date value format)
  | time {format value : String} (named : kind? fields matcherKey = some "time")
    (described : Keyed.find? "format" fields = some (.string format))
    (given : Keyed.find? "value" fields = some (.string value)) :
    Writes (Matcher.time value format)
  | statusCode {status : StatusRange} (named : kind? fields matcherKey = some "statusCode")
    (described : GivesStatus fields status) : Writes (Matcher.statusCode status)
  | arrayContains {variants : List Node} (named : kind? fields matcherKey = some "arrayContains")
    (given : tree? source fields "variants" = some (.sequence variants)) :
    Writes (Matcher.arrayContains variants)
  | eachLikeWithin {sample : Node} {min max : Option UInt64} (repeats : Repeats fields)
    (least : GivesBound fields "min" min) (greatest : GivesBound fields "max" max)
    (given : tree? source fields "value" = some sample) :
    Writes (Matcher.eachLikeWithin sample min max)

end Parameters

/-! ### Reading what is written -/

section Reading

variable {source : ExampleSource} {fields : MarkerFields} {kind key : String}

theorem tree?_of_find? {value : Json} {node : Node} (given : Keyed.find? key fields = some value)
    (leaf : ∀ inner, Node.ofMarkedJson inner value = node) :
    tree? source fields key = some node := by
  obtain ⟨inner, read⟩ := @Node.find?_ofMarkedMembers source 0 key fields
  rw [tree?, read, given, Option.map_some, leaf]

theorem tree?_integer {value : Int64}
    (given : (Keyed.find? key fields).bind Json.toInt64? = some value) :
    tree? source fields key = some (.integer value) := by
  obtain ⟨written, found, number⟩ := Option.bind_eq_some_iff.mp given
  refine tree?_of_find? found fun inner => ?_
  cases written with
  | number numeral =>
    have read : numeral.toInt64? = some value := number
    rw [Node.ofMarkedJson, Node.ofNumeral, read]
  | _ => cases number

theorem optionalCount_of_givesBound {bound : Option UInt64} (gives : GivesBound fields key bound) :
    optionalCount kind fields key = .ok bound := by
  unfold optionalCount
  cases bound with
  | none =>
    rcases gives with absent | absent
    · rw [absent]
    · rw [absent]
  | some count =>
    obtain ⟨written, found, number⟩ := Option.bind_eq_some_iff.mp gives
    rw [found]
    cases written with
    | null => cases number
    | _ => simp only [number]

theorem requiredText_of_find? {text : String}
    (given : Keyed.find? key fields = some (.string text)) :
    requiredText kind fields key = .ok text := by
  rw [requiredText, given]

theorem ofName?_name (statusClass : StatusClass) :
    StatusClass.ofName? statusClass.name = some statusClass := by
  cases statusClass <;> rfl

theorem statusCode?_of_toUInt64? {value : Json} {code : UInt16}
    (read : value.toUInt64? = some code.toUInt64) : statusCode? value = some code := by
  have same : code.toUInt64.toNat = code.toNat := UInt16.toNat_toUInt64 code
  rw [statusCode?, read, Option.bind_some, same, if_pos code.toNat_lt]
  exact congrArg some (UInt16.ofNat_toNat)

theorem mapM_statusCode? {written : List Json} {codes : List UInt16}
    (read : written.map Json.toUInt64? = codes.map fun code => some code.toUInt64) :
    written.mapM statusCode? = some codes := by
  induction written generalizing codes with
  | nil =>
    rw [List.map_eq_nil_iff.mp read.symm]
    rfl
  | cons value rest inductionHypothesis =>
    cases codes with
    | nil => cases read
    | cons code others =>
      obtain ⟨first, later⟩ := List.cons.inj read
      rw [List.mapM_cons, statusCode?_of_toUInt64? first, inductionHypothesis later]
      rfl

theorem statusRange_of_givesStatus {status : StatusRange} (gives : GivesStatus fields status) :
    statusRange kind fields = .ok status := by
  unfold statusRange
  cases status with
  | statusClass name =>
    have written : Keyed.find? "status" fields = some (.string name.name) := gives
    rw [written]
    simp only [ofName?_name]
  | codes codes =>
    obtain ⟨written, found, numbers⟩ := gives
    rw [found]
    simp only [mapM_statusCode? numbers]

theorem kindName?_of_kind? (named : kind? fields key = some kind) :
    kindName? fields key = .ok (some kind) := by
  rw [kindName?, kind?_eq_some.mp named]
  rfl

theorem kindName?_of_absent (absent : Keyed.contains key fields = false) :
    kindName? fields key = .ok none := by
  rw [Keyed.contains, Option.isSome_eq_false_iff, Option.isNone_iff_eq_none] at absent
  rw [kindName?, absent]

/-- A marker whose parts are read stands for the node that they give. -/
theorem ofMarkedJson_of_node {node : Node} (marked : isMarker fields = true)
    (read : Marker.node source fields (tree? source fields "value")
      (variants? (Node.ofMarkedMembers source 0 fields)) = .ok node) :
    Node.ofMarkedJson source (.object fields) = node := by
  rw [tree?] at read
  rw [Node.ofMarkedJson, if_pos marked, read]

/-- A marker without a generator is read as a matcher. -/
theorem ofMarkedJson_of_matcher {node : Node} (named : kind? fields matcherKey = some kind)
    (alone : Keyed.contains generatorKey fields = false)
    (read : matcher kind fields (tree? source fields "value")
      (variants? (Node.ofMarkedMembers source 0 fields)) = .ok node) :
    Node.ofMarkedJson source (.object fields) = node := by
  refine ofMarkedJson_of_node (isMarker_of_kind? named) ?_
  rw [Marker.node, kindName?_of_kind? named, kindName?_of_absent alone]
  exact read

/-- A matcher with one rule stands around its value. -/
theorem ofMarkedJson_of_rule {declared : Rule} {sample : Node}
    (named : kind? fields matcherKey = some kind)
    (alone : Keyed.contains generatorKey fields = false) (once : ¬ Repeats fields)
    (read : rule kind fields = .ok declared) (given : tree? source fields "value" = some sample) :
    Node.ofMarkedJson source (.object fields) = Matcher.single declared sample := by
  have known := kind_mem_ruleKinds read
  refine ofMarkedJson_of_matcher named alone ?_
  rw [matcher, if_neg, if_neg, if_neg, if_neg, read, given]
  · rfl
  · rintro rfl
    exact absurd known (by decide)
  · rintro rfl
    exact absurd known (by decide)
  · rintro ⟨rfl, bounded⟩
    exact once ⟨alone, Or.inr ⟨named, bounded⟩⟩
  · rintro rfl
    exact absurd known (by decide)

theorem not_repeats_of_kind (named : kind? fields matcherKey = some kind)
    (other : kind ≠ "eachLike" ∧ kind ≠ "type") : ¬ Repeats fields := by
  rintro ⟨_, each | ⟨type, _⟩⟩
  · exact other.1 (Option.some.inj (named.symm.trans each))
  · exact other.2 (Option.some.inj (named.symm.trans type))

theorem rule_type_of_once (named : kind? fields matcherKey = some "type")
    (alone : Keyed.contains generatorKey fields = false) (once : ¬ Repeats fields) :
    rule "type" fields = .ok .sameType := by
  have unbounded {key : String} (absent : ¬ Keyed.contains key fields = true) :
      optionalCount "type" fields key = .ok none := by
    rw [Keyed.contains, Option.isSome_iff_ne_none, not_not] at absent
    rw [optionalCount, absent]
  have noMin : ¬ Keyed.contains "min" fields = true := fun bounded =>
    once ⟨alone, Or.inr ⟨named, Or.inl bounded⟩⟩
  have noMax : ¬ Keyed.contains "max" fields = true := fun bounded =>
    once ⟨alone, Or.inr ⟨named, Or.inr bounded⟩⟩
  rw [rule, unbounded noMin, unbounded noMax]
  rfl

/-- A format that a constructor takes is read in a marker as well. -/
theorem dateFormat_of_accepted {value format call : String} {node : Node}
    (described : Keyed.find? "format" fields = some (.string format))
    (accepted : ¬ (Matcher.withFormat call value format node).IsInvalid) :
    rule.dateFormat fields kind = .ok format ∧
      Matcher.withFormat call value format node = node := by
  obtain ⟨pattern, read, same⟩ := Matcher.withFormat_of_accepted accepted
  refine ⟨?_, same⟩
  rw [rule.dateFormat, requiredText_of_find? described]
  simp only [bind, Except.bind, checkFormat, read]
  rfl

end Reading

/-! ### Trees of markers -/

section Trees

variable {source : ExampleSource} {fields : MarkerFields} {native : Node}

/-- Apart from inclusions, a marker and the constructor give the same tree. -/
theorem Writes.ofMarkedJson_eq (writes : Writes source fields native)
    (alone : Keyed.contains generatorKey fields = false) (accepted : ¬ native.IsInvalid)
    (other : kind? fields matcherKey ≠ some "include") :
    Node.ofMarkedJson source (.object fields) = native := by
  -- Except for types, repetitions and inclusions the kind says which rule is read.
  have plain {kind : String} {declared : Rule} {sample : Node}
      (named : kind? fields matcherKey = some kind) (apart : kind ≠ "eachLike" ∧ kind ≠ "type")
      (read : rule kind fields = .ok declared)
      (given : tree? source fields "value" = some sample) :
      Node.ofMarkedJson source (.object fields) = Matcher.single declared sample :=
    ofMarkedJson_of_rule named alone (not_repeats_of_kind named apart) read given
  have text {value : String} (given : Keyed.find? "value" fields = some (.string value)) :
      tree? source fields "value" = some (.string value) :=
    tree?_of_find? given fun inner => by rw [Node.ofMarkedJson]
  have dated {kind call format value : String} {declared : Rule}
      (named : kind? fields matcherKey = some kind) (apart : kind ≠ "eachLike" ∧ kind ≠ "type")
      (described : Keyed.find? "format" fields = some (.string format))
      (given : Keyed.find? "value" fields = some (.string value))
      (accepted : ¬ (Matcher.withFormat call value format
        (Matcher.single declared (.string value))).IsInvalid)
      (read : rule.dateFormat fields kind = .ok format → rule kind fields = .ok declared) :
      Node.ofMarkedJson source (.object fields) =
        Matcher.withFormat call value format (Matcher.single declared (.string value)) := by
    obtain ⟨isFormat, same⟩ := dateFormat_of_accepted described accepted
    rw [same]
    exact plain named apart (read isFormat) (text given)
  cases writes with
  | like named once given =>
    exact ofMarkedJson_of_rule named alone once (rule_type_of_once named alone once) given
  | equalTo named given => exact plain named (by decide) rfl given
  | integer named given => exact plain named (by decide) rfl (tree?_integer given)
  | decimal named given => exact plain named (by decide) rfl given
  | number named given => exact plain named (by decide) rfl given
  | null named given =>
    exact plain named (by decide) rfl (tree?_of_find? given fun inner => by rw [Node.ofMarkedJson])
  | boolean named given =>
    exact plain named (by decide) rfl (tree?_of_find? given fun inner => by rw [Node.ofMarkedJson])
  | notEmpty named given => exact plain named (by decide) rfl given
  | semver named given => exact plain named (by decide) rfl (text given)
  | regex named described given =>
    refine plain named (by decide) ?_ (text given)
    rw [rule, requiredText_of_find? described]
    rfl
  | includes named given => exact absurd named other
  | datetime named described given =>
    rcases named with named | named
    · exact dated named (by decide) described given accepted fun read => by rw [rule, read]; rfl
    · exact dated named (by decide) described given accepted fun read => by rw [rule, read]; rfl
  | date named described given =>
    exact dated named (by decide) described given accepted fun read => by rw [rule, read]; rfl
  | time named described given =>
    exact dated named (by decide) described given accepted fun read => by rw [rule, read]; rfl
  | statusCode named described =>
    refine ofMarkedJson_of_matcher named alone ?_
    have read : matcher "statusCode" fields (tree? source fields "value")
        (variants? (Node.ofMarkedMembers source 0 fields)) =
          (statusRange "statusCode" fields).map Matcher.statusCode := rfl
    rw [read, statusRange_of_givesStatus described]
    rfl
  | arrayContains named given =>
    rw [tree?] at given
    refine ofMarkedJson_of_matcher named alone ?_
    rw [variants?, given]
    rfl
  | @eachLikeWithin sample min max repeats least greatest given =>
    have read (kind : String) : repetition kind fields (tree? source fields "value") =
        .ok (Matcher.eachLikeWithin sample min max) := by
      rw [repetition, optionalCount_of_givesBound least, optionalCount_of_givesBound greatest,
        given]
      rfl
    rcases repeats.2 with named | ⟨named, bounded⟩
    · exact ofMarkedJson_of_matcher named alone (read "eachLike")
    · refine ofMarkedJson_of_matcher named alone ?_
      rw [matcher, if_neg (by decide), if_pos ⟨rfl, bounded⟩, read]

/-- A marker for an inclusion stands for the constructor of inclusions. -/
theorem Writes.eq_includes (writes : Writes source fields native)
    (isInclude : kind? fields matcherKey = some "include") :
    ∃ value combine, Keyed.find? "value" fields = some (.string value) ∧
      native = Matcher.includes [value] combine := by
  have apart {kind : String} {conclusion : Prop} (named : kind? fields matcherKey = some kind)
      (other : kind ≠ "include") : conclusion :=
    absurd (Option.some.inj (named.symm.trans isInclude)) other
  cases writes with
  | @includes value combine named given => exact ⟨value, combine, given, rfl⟩
  | like named | equalTo named | integer named | decimal named | number named | null named
  | boolean named | notEmpty named | semver named | regex named | date named | time named
  | statusCode named | arrayContains named => exact apart named (by decide)
  | datetime named =>
    rcases named with named | named
    · exact apart named (by decide)
    · exact apart named (by decide)
  | eachLikeWithin repeats =>
    rcases repeats.2 with named | ⟨named, _⟩
    · exact apart named (by decide)
    · exact apart named (by decide)

/-- A marker for an inclusion gives the rule of the constructor, but not the combination. -/
theorem ofMarkedJson_include {value : String}
    (named : kind? fields matcherKey = some "include")
    (alone : Keyed.contains generatorKey fields = false)
    (given : Keyed.find? "value" fields = some (.string value)) :
    Node.ofMarkedJson source (.object fields) =
      .matcher [.includes value] none (.string value) := by
  refine ofMarkedJson_of_rule named alone (not_repeats_of_kind named (by decide)) ?_
    (tree?_of_find? given fun inner => by rw [Node.ofMarkedJson])
  rw [rule, requiredText_of_find? given]
  rfl

end Trees

end Marker

/-! ### Compiled markers -/

/-- The same without saying how the rules at each path combine. -/
def Compiled.uncombined (compiled : Compiled) : Compiled :=
  { compiled with
    rules := compiled.rules.map fun (path, ruleSet) => (path, { ruleSet with combine := none }) }

namespace Node

variable {limit depth : Nat} {element : Element} {path : Path} {repeated : Bool}

theorem compileAt_includes (value : String) (combine : Combination) :
    compileAt limit element path repeated depth
        (.matcher [.includes value] none (.string value)) =
      (compileAt limit element path repeated depth
        (.matcher [.includes value] (some combine) (.string value))).map Compiled.uncombined := by
  by_cases deep : limit < depth
  · have described : (matcher [.includes value] none (.string value)).describe =
        (matcher [.includes value] (some combine) (.string value)).describe := by
      rw [describe, describe, describeWithin, describeWithin]
    rw [compileAt_of_lt deep, compileAt_of_lt deep, described]
    rfl
  have within : depth ≤ limit := Nat.not_lt.mp deep
  rw [compileAt_matcher within, compileAt_matcher within]
  by_cases below : limit < depth + 1
  · rw [compileAt_of_lt below]
    rfl
  · rw [string, compileAt_scalar (Nat.not_lt.mp below)]
    rfl

/-- Wherever a marker without a generator lies, it is compiled like the tree of the constructor
that it is written for. Only the combination of an inclusion is lost. -/
theorem compileAt_marker_writes (source : ExampleSource) (fields : MarkerFields) (native : Node)
    (alone : Keyed.contains Marker.generatorKey fields = false)
    (writes : Marker.Writes source fields native) (accepted : ¬ native.IsInvalid)
    (limit : Nat) (element : Element) (path : Path) (repeated : Bool) (depth : Nat) :
    let marker := ofMarkedJson source (.object fields)
    let kind := Marker.kind? fields Marker.matcherKey
    (kind ≠ some "include" →
        compileAt limit element path repeated depth marker =
          compileAt limit element path repeated depth native) ∧
      (kind = some "include" →
        compileAt limit element path repeated depth marker =
          (compileAt limit element path repeated depth native).map Compiled.uncombined) := by
  intro marker kind
  constructor
  · intro other
    have same : marker = native := writes.ofMarkedJson_eq alone accepted other
    rw [same]
  · intro named
    obtain ⟨value, combine, given, rfl⟩ := writes.eq_includes named
    have same : marker = .matcher [.includes value] none (.string value) :=
      Marker.ofMarkedJson_include named alone given
    rw [same]
    exact compileAt_includes value combine

/-- Users, one or more, each with an integer: the marker of the outer repetition. -/
theorem compileAt_marker_writes_of_users :
    let source : ExampleSource := ⟨fun _ => 0, default⟩
    let id := Json.object [("pact:matcher:type", .string "integer"), ("value", .ofInt 1)]
    let users := [("min", Json.ofInt 1), ("pact:matcher:type", .string "type"),
      ("value", .array [.object [("id", id)]])]
    let native :=
      Matcher.eachLikeWithin (.sequence [.mapping [("id", Matcher.integer 1)]]) (some 1) none
    Keyed.contains Marker.generatorKey users = false ∧ Marker.Writes source users native ∧
      ¬ native.IsInvalid ∧
        compileAt 9 .body (Path.body.child (.key "users")) false 1
            (ofMarkedJson source (.object users)) =
          compileAt 9 .body (Path.body.child (.key "users")) false 1 native := by
  intro source id users native
  have writes : Marker.Writes source users native :=
    .eachLikeWithin ⟨rfl, Or.inr ⟨rfl, Or.inl rfl⟩⟩ rfl (Or.inl rfl) rfl
  have accepted : ¬ native.IsInvalid := not_false
  exact ⟨rfl, writes, accepted, (compileAt_marker_writes source users native rfl writes accepted 9
    .body (Path.body.child (.key "users")) false 1).1 (by decide)⟩

/-- A marker for a text with "rust" in it records its rule without a combination, the constructor
records it with one. -/
theorem include_marker_uncombined :
    let source : ExampleSource := ⟨fun _ => 0, default⟩
    let fields := [("pact:matcher:type", Json.string "include"), ("value", .string "rust")]
    let native := Matcher.includes ["rust"] .all
    Keyed.contains Marker.generatorKey fields = false ∧ Marker.Writes source fields native ∧
      ¬ native.IsInvalid ∧
        (ofMarkedJson source (.object fields)).compile .body .body false 1 =
          .ok ⟨⟨[("$", ⟨[.includes "rust"], none⟩)], []⟩, .string "rust"⟩ ∧
        native.compile .body .body false 1 =
          .ok ⟨⟨[("$", ⟨[.includes "rust"], some .all⟩)], []⟩, .string "rust"⟩ :=
  ⟨rfl, .includes rfl rfl, not_false, rfl, rfl⟩

end Node

end ConsumerContract
