/-
This file says what a marker stands for. The reader of markers makes many checks, and
every one that fails gives an invalid node; what is left is one of eight nodes, each
with what was read to get there. Statements about trees that were authored as JSON
use this list and do not open the reader.
-/

import ConsumerContract.Authoring.Marker
import ConsumerContract.Proofs.Parts
import ConsumerContract.Proofs.PlainData

namespace ConsumerContract

/-! ### Constructors that check their parameters -/

/-- Where both bounds are given, the least count is at most the greatest. -/
def BoundsFit (min max : Option UInt64) : Prop :=
  ∀ lower ∈ min, ∀ upper ∈ max, lower ≤ upper

/-- The status that stands for the others, if there is any. -/
def StatusRange.sampleCode? : StatusRange → Option UInt16
  | .statusClass name => some name.sampleCode
  | .codes listed => listed.head?

namespace Matcher

theorem eachLikeWithin_cases (sample : Node) (min max : Option UInt64) :
    (eachLikeWithin sample min max).IsInvalid ∨
      BoundsFit min max ∧
        eachLikeWithin sample min max = .repetition (asCollection sample) min max := by
  unfold eachLikeWithin
  split
  · rename_i lower upper
    split
    · exact Or.inl trivial
    · rename_i fits
      refine Or.inr ⟨fun least isLeast greatest isGreatest => ?_, rfl⟩
      rw [← Option.some.inj isLeast, ← Option.some.inj isGreatest]
      exact UInt64.not_lt.mp fits
  · rename_i unbounded
    exact Or.inr ⟨fun least isLeast greatest isGreatest =>
      (unbounded least greatest isLeast isGreatest).elim, rfl⟩

theorem statusCode_cases (status : StatusRange) :
    (statusCode status).IsInvalid ∨
      ∃ code, status.sampleCode? = some code ∧
        statusCode status = single (.statusCode status) (.integer (Int64.ofNat code.toNat)) := by
  match status with
  | .statusClass name => exact Or.inr ⟨_, rfl, rfl⟩
  | .codes (first :: _) => exact Or.inr ⟨_, rfl, rfl⟩
  | .codes [] => exact Or.inl trivial

theorem arrayContains_cases (variants : List Node) :
    (arrayContains variants).IsInvalid ∨ arrayContains variants = .arrayContains variants := by
  cases variants with
  | nil => exact Or.inl trivial
  | cons first rest => exact Or.inr rfl

end Matcher

theorem Generated.ofDeclaration_cases (source : ExampleSource) (declaration : Generator) :
    (ofDeclaration source declaration).IsInvalid ∨
      ∃ generated leaf, ofDeclaration source declaration = .generator generated (.scalar leaf) := by
  cases declaration with
  | randomInt min max =>
    simp only [ofDeclaration, integer]
    split
    · exact Or.inl trivial
    · exact Or.inr ⟨_, _, rfl⟩
  | randomDecimal digits =>
    simp only [ofDeclaration, decimal]
    split
    · exact Or.inl trivial
    · exact Or.inr ⟨_, _, rfl⟩
  | randomString size =>
    simp only [ofDeclaration, string]
    split
    · exact Or.inl trivial
    · exact Or.inr ⟨_, _, rfl⟩
  | calendar part format expression =>
    simp only [ofDeclaration, calendar]
    split
    · exact Or.inr ⟨_, _, rfl⟩
    · exact Or.inl trivial
  | regex pattern => exact Or.inl trivial
  | providerState expression => exact Or.inl trivial
  | randomBoolean => exact Or.inr ⟨_, _, rfl⟩
  | randomHexadecimal digits => exact Or.inr ⟨_, _, rfl⟩
  | uuid format => exact Or.inr ⟨_, _, rfl⟩
  | mockServerUrl sample pattern => exact Or.inr ⟨_, _, rfl⟩

namespace Marker

/-! ### Names of kinds -/

/-- The kind that a marker names, if it is named by a text. -/
def kind? (fields : MarkerFields) (key : String) : Option String :=
  (Keyed.find? key fields).bind Json.text?

theorem kind?_eq_some {fields : MarkerFields} {key kind : String} :
    kind? fields key = some kind ↔ Keyed.find? key fields = some (.string kind) := by
  unfold kind?
  cases Keyed.find? key fields with
  | none => simp
  | some value => cases value <;> simp [Json.text?]

theorem contains_of_kind? {fields : MarkerFields} {key kind : String}
    (named : kind? fields key = some kind) : Keyed.contains key fields = true := by
  rw [Keyed.contains, kind?_eq_some.mp named]
  rfl

theorem isMarker_of_kind? {fields : MarkerFields} {kind : String}
    (named : kind? fields matcherKey = some kind) : isMarker fields = true := by
  rw [isMarker, Bool.or_eq_true]
  exact Or.inl (contains_of_kind? named)

theorem kindName?_eq_ok {fields : MarkerFields} {key : String} {found : Option String}
    (read : kindName? fields key = .ok found) :
    found = kind? fields key ∧ (found = none → Keyed.contains key fields = false) := by
  unfold kindName? at read
  unfold kind? Keyed.contains
  split at read
  · rename_i absent
    rw [absent, ← Except.ok.inj read]
    exact ⟨rfl, fun _ => rfl⟩
  · rename_i value given
    cases value with
    | string name =>
      rw [given, ← Except.ok.inj read]
      exact ⟨rfl, nofun⟩
    | _ => cases read

/-- A matcher without a generator that stands for a repetition of its value. -/
def Repeats (fields : MarkerFields) : Prop :=
  Keyed.contains generatorKey fields = false ∧
    (kind? fields matcherKey = some "eachLike" ∨
      kind? fields matcherKey = some "type" ∧
        (Keyed.contains "min" fields = true ∨ Keyed.contains "max" fields = true))

instance (fields : MarkerFields) : Decidable (Repeats fields) :=
  inferInstanceAs (Decidable (_ ∧ (_ ∨ _ ∧ (_ ∨ _))))

/-- The matcher takes its example from elsewhere than from the value. -/
def IgnoresValue (fields : MarkerFields) : Prop :=
  kind? fields matcherKey = some "arrayContains" ∨ kind? fields matcherKey = some "statusCode"

instance (fields : MarkerFields) : Decidable (IgnoresValue fields) :=
  inferInstanceAs (Decidable (_ ∨ _))

/-- The matcher types with one rule. -/
def ruleKinds : List String :=
  ["type", "equality", "integer", "decimal", "number", "null", "boolean", "notEmpty", "semver",
    "regex", "include", "timestamp", "datetime", "date", "time"]

/-- All matcher types. -/
def matcherKinds : List String :=
  "eachLike" :: "arrayContains" :: "statusCode" :: ruleKinds

/-- All generator types. -/
def generatorKinds : List String :=
  ["RandomBoolean", "RandomInt", "RandomDecimal", "RandomHexadecimal", "RandomString", "Regex",
    "Date", "Time", "DateTime", "Uuid", "ProviderState", "MockServerURL"]

theorem kind_mem_ruleKinds {kind : String} {fields : MarkerFields} {declared : Rule}
    (read : rule kind fields = .ok declared) : kind ∈ ruleKinds := by
  unfold rule at read
  split at read
  all_goals first | decide | cases read

theorem kind_mem_matcherKinds {kind : String} {fields : MarkerFields} {declared : Rule}
    (read : rule kind fields = .ok declared) : kind ∈ matcherKinds :=
  List.mem_cons_of_mem _ (List.mem_cons_of_mem _ (List.mem_cons_of_mem _ (kind_mem_ruleKinds read)))

theorem kind_mem_generatorKinds {kind : String} {fields : MarkerFields} {declared : Generator}
    (read : declaration kind fields = .ok declared) : kind ∈ generatorKinds := by
  unfold declaration at read
  split at read
  all_goals first | decide | cases read

/-! ### What a marker stands for -/

section StandsFor

variable (source : ExampleSource) (fields : MarkerFields) (sample : Option Node)
  (variants : Option (List Node))

/-- The nodes that a marker with usable parameters stands for. -/
inductive StandsFor : Node → Prop where
  | repetition {inner : Node} {min max : Option UInt64} (repeats : Repeats fields)
    (given : sample = some inner) (fits : BoundsFit min max) :
    StandsFor (.repetition (Matcher.asCollection inner) min max)
  | arrayContains {items : List Node} (named : kind? fields matcherKey = some "arrayContains")
    (alone : Keyed.contains generatorKey fields = false) (given : variants = some items) :
    StandsFor (.arrayContains items)
  | statusCode {status : StatusRange} {code : UInt16}
    (named : kind? fields matcherKey = some "statusCode")
    (alone : Keyed.contains generatorKey fields = false)
    (read : statusRange "statusCode" fields = .ok status)
    (usable : status.sampleCode? = some code) :
    StandsFor (Matcher.single (.statusCode status) (.integer (Int64.ofNat code.toNat)))
  | matcher {kind : String} {rule : Rule} {inner : Node}
    (named : kind? fields matcherKey = some kind)
    (alone : Keyed.contains generatorKey fields = false) (once : ¬ Repeats fields)
    (declared : Marker.rule kind fields = .ok rule) (given : sample = some inner) :
    StandsFor (Matcher.single rule inner)
  | generator {kind : String} {declaration : Generator} {inner : Node}
    (named : kind? fields generatorKey = some kind)
    (alone : Keyed.contains matcherKey fields = false)
    (declared : Marker.declaration kind fields = .ok declaration) (given : sample = some inner) :
    StandsFor (.generator declaration inner)
  | composite {kind generatorKind : String} {rule : Rule} {declaration : Generator} {inner : Node}
    (named : kind? fields matcherKey = some kind)
    (generates : kind? fields generatorKey = some generatorKind)
    (described : Marker.rule kind fields = .ok rule)
    (declared : Marker.declaration generatorKind fields = .ok declaration)
    (given : sample = some inner) : StandsFor (.composite rule declaration inner)
  | computed {kind : String} {declaration generated : Generator} {leaf : Scalar}
    (named : kind? fields generatorKey = some kind)
    (alone : Keyed.contains matcherKey fields = false)
    (declared : Marker.declaration kind fields = .ok declaration) (absent : sample = none)
    (made : Generated.ofDeclaration source declaration = .generator generated (.scalar leaf)) :
    StandsFor (.generator generated (.scalar leaf))
  | computedComposite {kind generatorKind : String} {rule : Rule}
    {declaration generated : Generator} {leaf : Scalar}
    (named : kind? fields matcherKey = some kind)
    (generates : kind? fields generatorKey = some generatorKind)
    (described : Marker.rule kind fields = .ok rule)
    (declared : Marker.declaration generatorKind fields = .ok declaration)
    (absent : sample = none)
    (made : Generated.ofDeclaration source declaration = .generator generated (.scalar leaf)) :
    StandsFor (.composite rule declaration (.scalar leaf))

end StandsFor

section Inversion

variable {source : ExampleSource} {fields : MarkerFields} {sample : Option Node}
  {variants : Option (List Node)} {kind : String} {node : Node}

theorem requiredSample_eq_ok {inner : Node} (read : requiredSample kind sample = .ok inner) :
    sample = some inner := by
  cases sample with
  | none => cases read
  | some given => rw [Except.ok.inj read]

theorem standsFor_of_repetition (repeats : Repeats fields)
    (read : repetition kind fields sample = .ok node) :
    node.IsInvalid ∨ StandsFor source fields sample variants node := by
  unfold repetition at read
  simp only [bind_eq_ok] at read
  obtain ⟨min, _, max, _, inner, given, same⟩ := read
  rw [← Except.ok.inj same]
  rcases Matcher.eachLikeWithin_cases inner min max with invalid | ⟨fits, same⟩
  · exact Or.inl invalid
  · rw [same]
    exact Or.inr (.repetition repeats (requiredSample_eq_ok given) fits)

theorem standsFor_of_matcher (named : kind? fields matcherKey = some kind)
    (alone : Keyed.contains generatorKey fields = false)
    (read : matcher kind fields sample variants = .ok node) :
    node.IsInvalid ∨ StandsFor source fields sample variants node := by
  unfold matcher at read
  split at read
  · rename_i same
    exact standsFor_of_repetition ⟨alone, Or.inl (same ▸ named)⟩ read
  split at read
  · rename_i bounded
    exact standsFor_of_repetition ⟨alone, Or.inr ⟨bounded.1 ▸ named, bounded.2⟩⟩ read
  split at read
  · rename_i same
    cases variants with
    | none => cases read
    | some items =>
      rw [← Except.ok.inj read]
      rcases Matcher.arrayContains_cases items with invalid | shape
      · exact Or.inl invalid
      · rw [shape]
        exact Or.inr (.arrayContains (same ▸ named) alone rfl)
  split at read
  · rename_i same
    subst same
    cases range : statusRange "statusCode" fields with
    | error fault =>
      rw [range] at read
      cases read
    | ok status =>
      rw [range] at read
      rw [← Except.ok.inj read]
      rcases Matcher.statusCode_cases status with invalid | ⟨code, usable, shape⟩
      · exact Or.inl invalid
      · rw [shape]
        exact Or.inr (.statusCode named alone range usable)
  · rename_i notEach notBounded _ _
    simp only [bind_eq_ok] at read
    obtain ⟨rule, declared, inner, given, same⟩ := read
    rw [← Except.ok.inj same]
    refine Or.inr (.matcher named alone ?_ declared (requiredSample_eq_ok given))
    rintro ⟨_, each | ⟨type, bounded⟩⟩
    · exact notEach (Option.some.inj (named.symm.trans each))
    · exact notBounded ⟨Option.some.inj (named.symm.trans type), bounded⟩

theorem standsFor_of_generator (named : kind? fields generatorKey = some kind)
    (alone : Keyed.contains matcherKey fields = false)
    (read : generator source kind fields sample = .ok node) :
    node.IsInvalid ∨ StandsFor source fields sample variants node := by
  unfold generator at read
  rw [bind_eq_ok] at read
  obtain ⟨declaration, declared, read⟩ := read
  cases sample with
  | some inner =>
    rw [← Except.ok.inj read]
    exact Or.inr (.generator named alone declared rfl)
  | none =>
    rw [← Except.ok.inj read]
    rcases Generated.ofDeclaration_cases source declaration with invalid | ⟨generated, leaf, made⟩
    · exact Or.inl invalid
    · rw [made]
      exact Or.inr (.computed named alone declared rfl made)

theorem standsFor_of_composite {generatorKind : String}
    (named : kind? fields matcherKey = some kind)
    (generates : kind? fields generatorKey = some generatorKind)
    (read : composite source kind generatorKind fields sample = .ok node) :
    node.IsInvalid ∨ StandsFor source fields sample variants node := by
  unfold composite at read
  simp only [bind_eq_ok] at read
  obtain ⟨rule, described, declaration, declared, read⟩ := read
  cases sample with
  | some inner =>
    rw [← Except.ok.inj read]
    exact Or.inr (.composite named generates described declared rfl)
  | none =>
    rcases Generated.ofDeclaration_cases source declaration with invalid | ⟨generated, leaf, made⟩
    · cases shape : Generated.ofDeclaration source declaration with
      | invalid description problem =>
        rw [shape] at read
        rw [← Except.ok.inj read]
        exact Or.inl trivial
      | _ =>
        rw [shape] at invalid
        exact invalid.elim
    · rw [made] at read
      rw [← Except.ok.inj read]
      exact Or.inr (.computedComposite named generates described declared rfl made)

/-- A marker that is read stands for one of the listed nodes, or its parameters are refused. -/
theorem standsFor_of_node (read : Marker.node source fields sample variants = .ok node) :
    node.IsInvalid ∨ StandsFor source fields sample variants node := by
  unfold Marker.node at read
  simp only [bind_eq_ok] at read
  obtain ⟨matcherKind, first, generatorKind, second, read⟩ := read
  obtain ⟨matched, matcherAbsent⟩ := kindName?_eq_ok first
  obtain ⟨generated, generatorAbsent⟩ := kindName?_eq_ok second
  match matcherKind, generatorKind with
  | some kind, none => exact standsFor_of_matcher matched.symm (generatorAbsent rfl) read
  | none, some kind => exact standsFor_of_generator generated.symm (matcherAbsent rfl) read
  | some kind, some other => exact standsFor_of_composite matched.symm generated.symm read
  | none, none => cases read

end Inversion

end Marker

/-! ### Examples of markers -/

namespace Node

theorem valid_of_asCollection {inner : Node} (valid : (Matcher.asCollection inner).Valid) :
    inner.Valid := by
  cases inner with
  | sequence items => exact valid
  | mapping members => exact valid
  | _ => exact valid.child List.mem_cons_self

/-- An array-contains matcher is valid as the sequence of its variants is. -/
theorem valid_sequence_of_arrayContains {variants : List Node}
    (valid : (arrayContains variants).Valid) : (sequence variants).Valid :=
  forall_contains.mpr ⟨id, fun _ member => valid.child member⟩

end Node

namespace Marker

/-- The four ways in which the node of a marker takes its example. -/
inductive Shows (fields : MarkerFields) (sample : Option Node) (variants : Option (List Node)) :
    Node → Prop where
  | repeated {inner : Node} {min max : Option UInt64} (repeats : Repeats fields)
    (given : sample = some inner) :
    Shows fields sample variants (.repetition (Matcher.asCollection inner) min max)
  | wrapped {node : Node} (once : ¬ Repeats fields) (heeds : ¬ IgnoresValue fields)
    (around : ∀ inner, sample = some inner → node.sample? = some inner) :
    Shows fields sample variants node
  | varied {items : List Node} (named : kind? fields matcherKey = some "arrayContains")
    (given : variants = some items) : Shows fields sample variants (.arrayContains items)
  | status {status : StatusRange} {code : UInt16}
    (named : kind? fields matcherKey = some "statusCode")
    (read : statusRange "statusCode" fields = .ok status)
    (usable : status.sampleCode? = some code) :
    Shows fields sample variants
      (Matcher.single (.statusCode status) (.integer (Int64.ofNat code.toNat)))

variable {source : ExampleSource} {fields : MarkerFields} {sample : Option Node}
  {variants : Option (List Node)} {node : Node}

theorem not_repeats_of_named {kind : String} (generates : kind? fields generatorKey = some kind) :
    ¬ Repeats fields := by
  rintro ⟨alone, _⟩
  rw [contains_of_kind? generates] at alone
  cases alone

theorem kind?_of_absent {key : String} (absent : Keyed.contains key fields = false) :
    kind? fields key = none := by
  rw [Keyed.contains, Option.isSome_eq_false_iff, Option.isNone_iff_eq_none] at absent
  rw [kind?, absent]
  rfl

theorem not_ignoresValue_of_kind {kind : String} (named : kind? fields matcherKey = some kind)
    (heeds : kind ≠ "arrayContains" ∧ kind ≠ "statusCode") : ¬ IgnoresValue fields := by
  rintro (other | other)
  · exact heeds.1 (Option.some.inj (named.symm.trans other))
  · exact heeds.2 (Option.some.inj (named.symm.trans other))

theorem not_ignoresValue_of_rule {kind : String} {declared : Rule}
    (named : kind? fields matcherKey = some kind) (read : rule kind fields = .ok declared) :
    ¬ IgnoresValue fields := by
  refine not_ignoresValue_of_kind named ⟨?_, ?_⟩
  · rintro rfl
    exact absurd (kind_mem_ruleKinds read) (by decide)
  · rintro rfl
    exact absurd (kind_mem_ruleKinds read) (by decide)

theorem not_ignoresValue_of_absent (absent : Keyed.contains matcherKey fields = false) :
    ¬ IgnoresValue fields := by
  rw [IgnoresValue, kind?_of_absent absent]
  nofun

theorem Repeats.not_ignoresValue (repeats : Repeats fields) : ¬ IgnoresValue fields := by
  rcases repeats.2 with named | ⟨named, _⟩
  · exact not_ignoresValue_of_kind named (by decide)
  · exact not_ignoresValue_of_kind named (by decide)

/-- A matcher or a generator on its own, or both at once, stand around the value. -/
theorem StandsFor.shows (stands : StandsFor source fields sample variants node) :
    Shows fields sample variants node := by
  cases stands with
  | repetition repeats given fits => exact .repeated repeats given
  | arrayContains named alone given => exact .varied named given
  | statusCode named alone read usable => exact .status named read usable
  | matcher named alone once declared given =>
    exact .wrapped once (not_ignoresValue_of_rule named declared) fun inner same =>
      given.symm.trans same
  | generator named alone declared given =>
    exact .wrapped (not_repeats_of_named named) (not_ignoresValue_of_absent alone)
      fun inner same => given.symm.trans same
  | composite named generates described declared given =>
    exact .wrapped (not_repeats_of_named generates) (not_ignoresValue_of_rule named described)
      fun inner same => given.symm.trans same
  | computed named alone declared absent made =>
    exact .wrapped (not_repeats_of_named named) (not_ignoresValue_of_absent alone)
      fun inner same => absurd (absent.symm.trans same) nofun
  | computedComposite named generates described declared absent made =>
    exact .wrapped (not_repeats_of_named generates) (not_ignoresValue_of_rule named described)
      fun inner same => absurd (absent.symm.trans same) nofun

/-- The value of a marker is part of the node that the marker stands for. -/
theorem Shows.valid_of_sample (shown : Shows fields sample variants node)
    (heeds : ¬ IgnoresValue fields) (valid : node.Valid) {inner : Node}
    (given : sample = some inner) : inner.Valid := by
  cases shown with
  | repeated repeats same =>
    obtain rfl := Option.some.inj (same.symm.trans given)
    exact Node.valid_of_asCollection (valid.child List.mem_cons_self)
  | wrapped once _ around => exact valid.child (Node.mem_children_of_sample? (around inner given))
  | varied named same => exact absurd (Or.inl named) heeds
  | status named read usable => exact absurd (Or.inr named) heeds

/-- An array-contains marker stands for its variants. -/
theorem Shows.variants_eq (shown : Shows fields sample variants node)
    (named : kind? fields matcherKey = some "arrayContains") :
    ∃ items, variants = some items ∧ node = .arrayContains items := by
  cases shown with
  | repeated repeats same => exact absurd (Or.inl named) repeats.not_ignoresValue
  | wrapped once heeds around => exact absurd (Or.inl named) heeds
  | varied _ given => exact ⟨_, given, rfl⟩
  | status other read usable => exact absurd (named.symm.trans other) (by decide)

end Marker

/-! ### Trees with markers -/

namespace Node

theorem sequenceItems?_eq_some {node : Node} {items : List Node} :
    Marker.sequenceItems? node = some items ↔ node = .sequence items := by
  cases node <;> simp [Marker.sequenceItems?]

variable {source : ExampleSource} {position : Nat}

theorem mem_ofMarkedItems {items : List Json} {item : Json} (member : item ∈ items) :
    ∃ inner, ofMarkedJson inner item ∈ ofMarkedItems source position items := by
  induction items generalizing position with
  | nil => cases member
  | cons first rest inductionHypothesis =>
    rw [ofMarkedItems]
    rcases List.mem_cons.mp member with rfl | later
    · exact ⟨_, List.mem_cons_self⟩
    · obtain ⟨inner, found⟩ := inductionHypothesis later
      exact ⟨inner, List.mem_cons_of_mem _ found⟩

theorem mem_ofMarkedMembers {members : List (String × Json)} {key : String} {value : Json}
    (member : (key, value) ∈ members) :
    ∃ inner, (key, ofMarkedJson inner value) ∈ ofMarkedMembers source position members := by
  induction members generalizing position with
  | nil => cases member
  | cons entry rest inductionHypothesis =>
    rw [ofMarkedMembers.eq_def]
    rcases List.mem_cons.mp member with rfl | later
    · exact ⟨_, List.mem_cons_self⟩
    · obtain ⟨inner, found⟩ := inductionHypothesis later
      exact ⟨inner, List.mem_cons_of_mem _ found⟩

theorem exists_of_mem_ofMarkedItems {items : List Json} {node : Node}
    (member : node ∈ ofMarkedItems source position items) :
    ∃ inner, ∃ item ∈ items, node = ofMarkedJson inner item := by
  induction items generalizing position with
  | nil => cases member
  | cons first rest inductionHypothesis =>
    rw [ofMarkedItems] at member
    rcases List.mem_cons.mp member with rfl | later
    · exact ⟨_, first, List.mem_cons_self, rfl⟩
    · obtain ⟨inner, item, found, same⟩ := inductionHypothesis later
      exact ⟨inner, item, List.mem_cons_of_mem _ found, same⟩

theorem exists_of_mem_ofMarkedMembers {members : List (String × Json)} {entry : String × Node}
    (member : entry ∈ ofMarkedMembers source position members) :
    ∃ inner, ∃ written ∈ members, entry = (written.1, ofMarkedJson inner written.2) := by
  induction members generalizing position with
  | nil => cases member
  | cons first rest inductionHypothesis =>
    rw [ofMarkedMembers.eq_def] at member
    rcases List.mem_cons.mp member with rfl | later
    · exact ⟨_, first, List.mem_cons_self, rfl⟩
    · obtain ⟨inner, written, found, same⟩ := inductionHypothesis later
      exact ⟨inner, written, List.mem_cons_of_mem _ found, same⟩

theorem keys_ofMarkedMembers (members : List (String × Json)) :
    Keyed.keys (ofMarkedMembers source position members) = Keyed.keys members := by
  induction members generalizing position with
  | nil => rfl
  | cons entry rest inductionHypothesis =>
    exact congrArg (List.cons entry.1) inductionHypothesis

/-- The member of a marker as a tree. -/
theorem find?_ofMarkedMembers (key : String) (members : List (String × Json)) :
    ∃ inner, Keyed.find? key (ofMarkedMembers source position members) =
      (Keyed.find? key members).map (ofMarkedJson inner) := by
  induction members generalizing position with
  | nil => exact ⟨source, rfl⟩
  | cons entry rest inductionHypothesis =>
    rw [ofMarkedMembers.eq_def, Keyed.find?, Keyed.find?]
    split
    · exact ⟨_, rfl⟩
    · exact inductionHypothesis

theorem ofMarkedJson_object {members : List (String × Json)}
    (plain : Marker.isMarker members = false) (ordered : Keyed.Ordered members) :
    ofMarkedJson source (.object members) = .mapping (ofMarkedMembers source 0 members) := by
  rw [ofMarkedJson, plain]
  refine ofMembers_of_ordered ?_
  rwa [Keyed.Ordered, keys_ofMarkedMembers]

/-- The tree of a marker is one of the listed nodes, or invalid. -/
theorem standsFor_of_marker {fields : MarkerFields} (marked : Marker.isMarker fields = true) :
    (ofMarkedJson source (.object fields)).IsInvalid ∨
      ∃ sample variants, Marker.StandsFor source fields ((Keyed.find? "value" fields).map
        (ofMarkedJson sample)) (((Keyed.find? "variants" fields).map
          (ofMarkedJson variants)).bind Marker.sequenceItems?)
            (ofMarkedJson source (.object fields)) := by
  obtain ⟨sample, valueRead⟩ := @find?_ofMarkedMembers source 0 "value" fields
  obtain ⟨variants, variantsRead⟩ := @find?_ofMarkedMembers source 0 "variants" fields
  rw [ofMarkedJson, if_pos marked, valueRead, Marker.variants?, variantsRead]
  split
  · rename_i node read
    exact (Marker.standsFor_of_node read).imp_right fun stands => ⟨sample, variants, stands⟩
  · exact Or.inl trivial

end Node

end ConsumerContract
