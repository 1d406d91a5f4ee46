/-
This file proves that written declarations can not be mistaken for each other. The
form of a section does not say whether it holds one declaration or a map of them,
and that of a status range not whether it is a class or a list of codes; optional
parameters are left out, and paths are arbitrary keys, so a path may be named like
a parameter. All the same, two sections with one JSON value are the same section.

A declaration without variants is read back from its members. Only variants hold
further declarations, so everything else is an induction over variants. What tells
a single declaration from a map is the member that each declaration has, a list of
matchers or the name of a type: in a map every member is an object.

JSON values are compared without regard to the order of members.
-/

import ConsumerContract.Encoding.Declarations
import ConsumerContract.Proofs.Keyed
import ConsumerContract.Proofs.Numbers

namespace ConsumerContract

/-! ### Values of JSON -/

namespace Json

mutual

/-- The value with the members of all its objects in key order. -/
def inKeyOrder : Json → Json
  | null => .null
  | bool value => .bool value
  | number numeral => .number numeral
  | string text => .string text
  | array items => .array (inKeyOrderItems items)
  | object members => .object (Keyed.ofList (inKeyOrderMembers members))

/-- Each item with its members in key order. -/
def inKeyOrderItems : List Json → List Json
  | [] => []
  | item :: rest => item.inKeyOrder :: inKeyOrderItems rest

/-- Each member with its own members in key order. -/
def inKeyOrderMembers : List (String × Json) → List (String × Json)
  | [] => []
  | (key, value) :: rest => (key, value.inKeyOrder) :: inKeyOrderMembers rest

end

/-- The values are equal but for the order in which objects list their members. -/
def SameValue (first second : Json) : Prop :=
  first.inKeyOrder = second.inKeyOrder

theorem inKeyOrderItems_eq (items : List Json) : inKeyOrderItems items = items.map inKeyOrder := by
  induction items with
  | nil => rfl
  | cons item rest inductionHypothesis =>
    rw [inKeyOrderItems, inductionHypothesis, List.map_cons]

theorem inKeyOrderMembers_eq (members : List (String × Json)) :
    inKeyOrderMembers members = members.map fun entry => (entry.1, entry.2.inKeyOrder) := by
  induction members with
  | nil => rfl
  | cons entry rest inductionHypothesis =>
    rw [inKeyOrderMembers, inductionHypothesis, List.map_cons]

/-- Of several members with one key the last one counts. -/
theorem member?_inKeyOrder (members : List (String × Json)) (key : String) :
    (object members).inKeyOrder.member? key =
      (Keyed.find? key members.reverse).map inKeyOrder := by
  rw [inKeyOrder, member?, inKeyOrderMembers_eq, Keyed.find?_ofList, ← List.map_reverse,
    Keyed.find?_map]

/-- The number of a whole numeral. -/
def toInt? : Json → Option Int
  | number numeral => numeral.toInt?
  | _ => none

theorem toInt?_ofInt (number : Int) : (ofInt number).toInt? = some number :=
  Numeral.toInt?_ofInt number

end Json

/-! ### Lists and maps of declarations -/

/-- Lists with the same images are equal if their elements can be told apart by their images. -/
theorem eq_of_map_eq {α β : Type} {change : α → β} {first second : List α}
    (apart : ∀ item ∈ first, ∀ other ∈ second, change item = change other → item = other)
    (same : first.map change = second.map change) : first = second := by
  induction first generalizing second with
  | nil => exact (List.map_eq_nil_iff.mp same.symm).symm
  | cons item rest inductionHypothesis =>
    cases second with
    | nil => cases same
    | cons other others =>
      obtain ⟨sameItem, sameRest⟩ := List.cons.inj same
      rw [apart item List.mem_cons_self other List.mem_cons_self sameItem,
        inductionHypothesis (fun item member other member' =>
          apart item (List.mem_cons_of_mem _ member) other (List.mem_cons_of_mem _ member'))
          sameRest]

section Written

variable {α : Type} {write : α → Json}

theorem eq_of_sameValue_items {first second : List α}
    (apart : ∀ item ∈ first, ∀ other ∈ second,
      (write item).SameValue (write other) → item = other)
    (same : (Json.array (first.map write)).SameValue (.array (second.map write))) :
    first = second := by
  have sameItems := Json.array.inj same
  rw [Json.inKeyOrderItems_eq, Json.inKeyOrderItems_eq, List.map_map, List.map_map] at sameItems
  exact eq_of_map_eq apart sameItems

/-- A map in key order is the only one with its written form. -/
theorem eq_of_sameValue_members {first second : Keyed α} (ordered : Keyed.Ordered first)
    (ordered' : Keyed.Ordered second)
    (apart : ∀ entry ∈ first, ∀ other ∈ second,
      (write entry.2).SameValue (write other.2) → entry.2 = other.2)
    (same : (Json.object (first.map fun entry => (entry.1, write entry.2))).SameValue
      (.object (second.map fun entry => (entry.1, write entry.2)))) : first = second := by
  have written {entries : Keyed α} (ordered : Keyed.Ordered entries) :
      Keyed.ofList (Json.inKeyOrderMembers (entries.map fun entry => (entry.1, write entry.2))) =
        entries.map fun entry => (entry.1, (write entry.2).inKeyOrder) := by
    rw [Json.inKeyOrderMembers_eq, List.map_map]
    refine Keyed.ofList_of_ordered ?_
    have keys := Keyed.keys_map (fun value => (write value).inKeyOrder) entries
    exact (congrArg (List.Pairwise (· < ·)) keys).mpr ordered
  have sameMembers := Json.object.inj same
  rw [written ordered, written ordered'] at sameMembers
  refine eq_of_map_eq (fun entry member other member' sameEntry => ?_) sameMembers
  obtain ⟨sameKey, sameWritten⟩ := Prod.mk.inj sameEntry
  exact Prod.ext sameKey (apart entry member other member' sameWritten)

/-- A value with a member that is no object is no map of objects. -/
theorem not_sameValue_of_member {json : Json} {key : String} {inner : Json}
    (found : json.inKeyOrder.member? key = some inner) (leaf : ∀ members, inner ≠ .object members)
    (objects : ∀ value, ∃ members, write value = .object members) (entries : Keyed α) :
    ¬ json.SameValue (.object (entries.map fun entry => (entry.1, write entry.2))) := by
  intro same
  rw [same, Json.member?_inKeyOrder, Option.map_eq_some_iff] at found
  obtain ⟨written, found, rfl⟩ := found
  obtain ⟨entry, -, same⟩ := List.mem_map.mp (List.mem_reverse.mp (Keyed.mem_of_find? found))
  obtain ⟨members, object⟩ := objects entry.2
  rw [← (Prod.mk.inj same).2, object] at leaf
  exact leaf _ rfl

end Written

/-! ### Generators -/

namespace Generator

/-- The generator that a written declaration stands for. -/
def ofJson? (json : Json) : Option Generator := do
  let text key := (json.member? key).bind Json.text?
  let number key := (json.member? key).bind Json.toInt?
  match ← text "type" with
  | "RandomBoolean" => return .randomBoolean
  | "RandomInt" => return .randomInt (.ofInt (← number "min")) (.ofInt (← number "max"))
  | "RandomDecimal" => return .randomDecimal (.ofNat (← number "digits").toNat)
  | "RandomHexadecimal" => return .randomHexadecimal (.ofNat (← number "digits").toNat)
  | "RandomString" => return .randomString (.ofNat (← number "size").toNat)
  | "Regex" => return .regex (← text "regex")
  | "Date" => return .calendar .date (text "format") (text "expression")
  | "Time" => return .calendar .time (text "format") (text "expression")
  | "DateTime" => return .calendar .dateTime (text "format") (text "expression")
  | "Uuid" => return .uuid ((text "format").bind UuidFormat.ofName?)
  | "ProviderState" => return .providerState (← text "expression")
  | "MockServerURL" => return .mockServerUrl (← text "example") (← text "regex")
  | _ => none

theorem ofJson?_toJson (declaration : Generator) :
    ofJson? declaration.toJson.inKeyOrder = some declaration := by
  unfold ofJson? toJson
  simp only [Json.member?_inKeyOrder]
  cases declaration with
  | randomBoolean => rfl
  | randomInt min max =>
    change ((Json.ofInt min.toInt).toInt?.bind fun lower => (Json.ofInt max.toInt).toInt?.bind
      fun upper => some (randomInt (.ofInt lower) (.ofInt upper))) = _
    rw [Json.toInt?_ofInt, Json.toInt?_ofInt, Option.bind_some, Option.bind_some,
      Int64.ofInt_toInt, Int64.ofInt_toInt]
  | randomDecimal digits =>
    exact congrArg (fun digits => some (randomDecimal digits)) UInt8.ofNat_toNat
  | randomHexadecimal digits =>
    exact congrArg (fun digits => some (randomHexadecimal digits)) UInt8.ofNat_toNat
  | randomString size => exact congrArg (fun size => some (randomString size)) UInt64.ofNat_toNat
  | regex pattern => rfl
  | calendar part format expression =>
    cases part <;> cases format <;> cases expression <;> rfl
  | uuid format =>
    cases format with
    | none => rfl
    | some format => cases format <;> rfl
  | providerState expression => rfl
  | mockServerUrl sample pattern => rfl

theorem member?_type (declaration : Generator) :
    declaration.toJson.inKeyOrder.member? "type" = some (.string declaration.kind) := by
  rw [toJson, Json.member?_inKeyOrder]
  cases declaration with
  | calendar part format expression => cases format <;> cases expression <;> rfl
  | uuid format => cases format <;> rfl
  | _ => rfl

theorem eq_of_sameValue {first second : Generator}
    (same : first.toJson.SameValue second.toJson) : first = second := by
  have read := ofJson?_toJson first
  rw [same, ofJson?_toJson] at read
  exact (Option.some.inj read).symm

end Generator

/-! ### Rules without variants -/

namespace StatusRange

/-- The statuses that a name or a list of codes stands for. -/
def ofJson? : Json → Option StatusRange
  | .string name => (StatusClass.ofName? name).map .statusClass
  | .array items => some <| .codes <| items.filterMap fun item =>
    item.toInt?.map fun code => .ofNat code.toNat
  | _ => none

theorem ofJson?_toJson (status : StatusRange) :
    ofJson? status.toJson.inKeyOrder = some status := by
  cases status with
  | statusClass name => cases name <;> rfl
  | codes list =>
    have read (code : UInt16) : ((Json.ofNat code.toNat).inKeyOrder.toInt?.map fun number =>
        UInt16.ofNat number.toNat) = some code :=
      congrArg some UInt16.ofNat_toNat
    rw [toJson, Json.inKeyOrder, Json.inKeyOrderItems_eq, ofJson?, List.filterMap_map,
      List.filterMap_map]
    exact congrArg (fun codes => some (StatusRange.codes codes))
      ((congrArg (List.filterMap · list) (funext read)).trans List.filterMap_some)

/-- A class is not mistaken for a list of codes, and each of them is written in its own way. -/
theorem eq_of_sameValue {first second : StatusRange}
    (same : first.toJson.SameValue second.toJson) : first = second := by
  have read := ofJson?_toJson first
  rw [same, ofJson?_toJson] at read
  exact (Option.some.inj read).symm

end StatusRange

namespace Rule

/-- The rule that is written so, if it has no variants. -/
def ofJson? (json : Json) : Option Rule := do
  let text key := (json.member? key).bind Json.text?
  let bound key := ((json.member? key).bind Json.toInt?).map fun number => .ofNat number.toNat
  match ← text "match" with
  | "equality" => return .equality
  | "type" => return .type (bound "min") (bound "max")
  | "integer" => return .integer
  | "decimal" => return .decimal
  | "number" => return .number
  | "regex" => return .regex (← text "regex")
  | "include" => return .includes (← text "value")
  | "null" => return .null
  | "boolean" => return .boolean
  | "notEmpty" => return .notEmpty
  | "semver" => return .semver
  | "timestamp" => return .timestamp (← text "format")
  | "date" => return .date (← text "format")
  | "time" => return .time (← text "format")
  | "statusCode" => return .statusCode (← (json.member? "status").bind StatusRange.ofJson?)
  | _ => none

/-- The variants of the rule; most rules have none. -/
def variants : Rule → List Variant
  | arrayContains variants => variants
  | _ => []

/-- The rule is written with its parameters only. -/
def IsPlain (rule : Rule) : Prop :=
  ∀ variants, rule ≠ .arrayContains variants

theorem toJson_of_isPlain {rule : Rule} (plain : rule.IsPlain) :
    rule.toJson = .object (("match", .string rule.kind) :: rule.scalarParameters) := by
  cases rule with
  | arrayContains variants => exact absurd rfl (plain variants)
  | _ =>
    rw [toJson]
    exact nofun

theorem ofJson?_toJson {rule : Rule} (plain : rule.IsPlain) :
    ofJson? rule.toJson.inKeyOrder = some rule := by
  unfold ofJson?
  rw [toJson_of_isPlain plain]
  simp only [Json.member?_inKeyOrder]
  cases rule with
  | arrayContains variants => exact absurd rfl (plain variants)
  | type min max =>
    have kept (bound : Option UInt64) :
        bound.map (fun number => UInt64.ofNat number.toNat) = bound := by
      cases bound with
      | none => rfl
      | some number => exact congrArg some UInt64.ofNat_toNat
    have same : some (type (min.map fun number => .ofNat number.toNat)
        (max.map fun number => .ofNat number.toNat)) = some (type min max) := by
      rw [kept, kept]
    refine Eq.trans ?_ same
    cases min <;> cases max <;> rfl
  | statusCode status =>
    change ((StatusRange.ofJson? status.toJson.inKeyOrder).bind
      fun status => some (statusCode status)) = _
    rw [StatusRange.ofJson?_toJson, Option.bind_some]
  | _ => rfl

theorem ofJson?_arrayContains (variants : List Variant) :
    ofJson? (arrayContains variants).toJson.inKeyOrder = none := by
  unfold ofJson?
  rw [toJson]
  simp only [Json.member?_inKeyOrder]
  rfl

theorem isPlain_or_eq (rule : Rule) :
    rule.IsPlain ∨ ∃ variants, rule = .arrayContains variants := by
  cases rule with
  | arrayContains variants => exact Or.inr ⟨variants, rfl⟩
  | _ => exact Or.inl nofun

/-- The written form shows whether a rule has variants, and determines one that has none. -/
theorem eq_or_arrayContains {first second : Rule} (same : first.toJson.SameValue second.toJson) :
    first = second ∨ ∃ variants variants',
      first = .arrayContains variants ∧ second = .arrayContains variants' := by
  have read : ofJson? first.toJson.inKeyOrder = ofJson? second.toJson.inKeyOrder :=
    congrArg ofJson? same
  rcases first.isPlain_or_eq with plain | ⟨variants, rfl⟩
  · rcases second.isPlain_or_eq with plain' | ⟨variants', rfl⟩
    · rw [ofJson?_toJson plain, ofJson?_toJson plain'] at read
      exact Or.inl (Option.some.inj read)
    · rw [ofJson?_toJson plain, ofJson?_arrayContains] at read
      cases read
  · rcases second.isPlain_or_eq with plain' | ⟨variants', rfl⟩
    · rw [ofJson?_toJson plain', ofJson?_arrayContains] at read
      cases read
    · exact Or.inr ⟨variants, variants', rfl, rfl⟩

/-! ### Rules with variants -/

theorem rulesJson_eq (rules : List Rule) : rulesJson rules = rules.map toJson := by
  induction rules with
  | nil => rfl
  | cons rule rest inductionHypothesis => rw [rulesJson, inductionHypothesis, List.map_cons]

theorem ruleSetsJson_eq (entries : List (String × RuleSet)) :
    ruleSetsJson entries = entries.map fun entry => (entry.1, entry.2.toJson) := by
  induction entries with
  | nil => rfl
  | cons entry rest inductionHypothesis => rw [ruleSetsJson, inductionHypothesis, List.map_cons]

theorem variantsJson_eq (variants : List Variant) :
    variantsJson variants = variants.map Variant.toJson := by
  induction variants with
  | nil => rfl
  | cons variant rest inductionHypothesis =>
    rw [variantsJson, inductionHypothesis, List.map_cons]

end Rule

theorem Variant.eq_of_sameValue {first second : Variant} (ordered : Keyed.Ordered first.rules)
    (ordered' : Keyed.Ordered second.rules) (orderedGenerators : Keyed.Ordered first.generators)
    (orderedGenerators' : Keyed.Ordered second.generators)
    (apart : ∀ entry ∈ first.rules, ∀ other ∈ second.rules,
      entry.2.toJson.SameValue other.2.toJson → entry.2 = other.2)
    (same : first.toJson.SameValue second.toJson) : first = second := by
  obtain ⟨index, rules, generators⟩ := first
  obtain ⟨index', rules', generators'⟩ := second
  rw [toJson, toJson, Rule.ruleSetsJson_eq, Rule.ruleSetsJson_eq] at same
  have sameMember (key : String) := congrArg (Json.member? key) same
  simp only [Json.member?_inKeyOrder] at sameMember
  have sameIndex : index = index' :=
    congrArg Numeral.whole (Json.number.inj (Option.some.inj (sameMember "index")))
  have sameRules : rules = rules' :=
    eq_of_sameValue_members ordered ordered' apart (Option.some.inj (sameMember "rules"))
  have sameGenerators : generators = generators' :=
    eq_of_sameValue_members orderedGenerators orderedGenerators'
      (fun _ _ _ _ => Generator.eq_of_sameValue) (Option.some.inj (sameMember "generators"))
  rw [sameIndex, sameRules, sameGenerators]

theorem Combination.eq_of_name {first second : Combination} (same : first.name = second.name) :
    first = second := by
  cases first <;> cases second
  · rfl
  · exact absurd same (by decide)
  · exact absurd same (by decide)
  · rfl

namespace RuleSet

/-- The maps of all variants in the set are in key order, however deep they lie. -/
inductive KeysOrdered : RuleSet → Prop where
  | intro {ruleSet : RuleSet}
      (rules : ∀ rule ∈ ruleSet.matchers, ∀ variant ∈ rule.variants, Keyed.Ordered variant.rules)
      (generators : ∀ rule ∈ ruleSet.matchers, ∀ variant ∈ rule.variants,
        Keyed.Ordered variant.generators)
      (inside : ∀ rule ∈ ruleSet.matchers, ∀ variant ∈ rule.variants, ∀ entry ∈ variant.rules,
        KeysOrdered entry.2) : KeysOrdered ruleSet

theorem member?_matchers (ruleSet : RuleSet) :
    ruleSet.toJson.inKeyOrder.member? "matchers" =
      some (Json.array (ruleSet.matchers.map Rule.toJson)).inKeyOrder := by
  obtain ⟨matchers, combine⟩ := ruleSet
  rw [toJson, Json.member?_inKeyOrder, Rule.rulesJson_eq]
  cases combine <;> rfl

theorem member?_combine (ruleSet : RuleSet) :
    ruleSet.toJson.inKeyOrder.member? "combine" =
      ruleSet.combine.map fun combination => .string combination.name := by
  obtain ⟨matchers, combine⟩ := ruleSet
  rw [toJson, Json.member?_inKeyOrder]
  cases combine <;> rfl

/-- Rule sets are determined by their written form: those of variants are by the induction, all
else is read back. -/
theorem eq_of_sameValue {first second : RuleSet} (ordered : first.KeysOrdered)
    (ordered' : second.KeysOrdered) (same : first.toJson.SameValue second.toJson) :
    first = second := by
  induction ordered generalizing second with
  | @intro first rules generators inside inductionHypothesis =>
    obtain ⟨rules', generators', inside'⟩ := ordered'
    have sameCombine : first.combine = second.combine := by
      have written := congrArg (Json.member? "combine") same
      rw [member?_combine, member?_combine] at written
      exact Option.map_injective (fun _ _ equal => Combination.eq_of_name (Json.string.inj equal))
        written
    have sameMatchers : first.matchers = second.matchers := by
      have written := congrArg (Json.member? "matchers") same
      rw [member?_matchers, member?_matchers] at written
      refine eq_of_sameValue_items (fun rule member rule' member' sameRule => ?_)
        (Option.some.inj written)
      rcases Rule.eq_or_arrayContains sameRule with equal | ⟨variants, variants', rfl, rfl⟩
      · exact equal
      have sameVariants :
          (Json.array (variants.map Variant.toJson)).SameValue
            (.array (variants'.map Variant.toJson)) := by
        have written := congrArg (Json.member? "variants") sameRule
        rw [Rule.toJson, Rule.toJson, Json.member?_inKeyOrder, Json.member?_inKeyOrder,
          Rule.variantsJson_eq, Rule.variantsJson_eq] at written
        exact Option.some.inj written
      refine congrArg Rule.arrayContains
        (eq_of_sameValue_items (fun variant listed variant' listed' sameVariant => ?_) sameVariants)
      exact Variant.eq_of_sameValue (rules _ member variant listed)
        (rules' _ member' variant' listed') (generators _ member variant listed)
        (generators' _ member' variant' listed')
        (fun entry found other found' sameSet => inductionHypothesis _ member variant listed entry
          found (inside' _ member' variant' listed' other found') sameSet) sameVariant
    obtain ⟨matchers, combine⟩ := first
    obtain ⟨matchers', combine'⟩ := second
    exact congr (congrArg RuleSet.mk sameMatchers) sameCombine

end RuleSet

/-! ### Sections -/

namespace Declarations

/-- A section by path is in key order, and so is everything in it. -/
def KeysOrdered {α : Type} (inside : α → Prop) : Declarations α → Prop
  | bare declaration => inside declaration
  | byPath entries => Keyed.Ordered entries ∧ ∀ entry ∈ entries, inside entry.2

/-- A section with all its maps in key order, as sections are made. -/
structure Ordered {α : Type} (inside : α → Prop) where
  declarations : Declarations α
  ordered : declarations.KeysOrdered inside

/-- Sections are determined by their written form if declarations are, and if no declaration is
written as a map of declarations. -/
theorem eq_of_sameValue {α : Type} {write : α → Json} {inside : α → Prop}
    (injective : ∀ first second, inside first → inside second →
      (write first).SameValue (write second) → first = second)
    (apart : ∀ declaration (entries : Keyed α), ¬ ((bare declaration).toJson write).SameValue
      ((byPath entries).toJson write))
    {first second : Ordered inside}
    (same : (first.declarations.toJson write).SameValue (second.declarations.toJson write)) :
    first.declarations = second.declarations := by
  obtain ⟨first, ordered⟩ := first
  obtain ⟨second, ordered'⟩ := second
  dsimp only at same ⊢
  cases first with
  | bare declaration =>
    cases second with
    | bare declaration' => exact congrArg bare (injective _ _ ordered ordered' same)
    | byPath entries => exact absurd same (apart declaration entries)
  | byPath entries =>
    cases second with
    | bare declaration => exact absurd same.symm (apart declaration entries)
    | byPath entries' =>
      refine congrArg byPath (eq_of_sameValue_members ordered.1 ordered'.1 ?_ same)
      exact fun entry member other member' =>
        injective _ _ (ordered.2 entry member) (ordered'.2 other member')

theorem not_sameValue_rules (ruleSet : RuleSet) (entries : Keyed RuleSet) :
    ¬ ((bare ruleSet).toJson RuleSet.toJson).SameValue
      ((byPath entries).toJson RuleSet.toJson) := by
  have objects : ∀ value : RuleSet, ∃ members, value.toJson = .object members := by
    rintro ⟨matchers, combine⟩
    rw [RuleSet.toJson]
    exact ⟨_, rfl⟩
  exact not_sameValue_of_member ruleSet.member?_matchers nofun objects entries

theorem not_sameValue_generators (declaration : Generator) (entries : Keyed Generator) :
    ¬ ((bare declaration).toJson Generator.toJson).SameValue
      ((byPath entries).toJson Generator.toJson) := by
  have objects (value : Generator) : ∃ members, value.toJson = .object members := ⟨_, rfl⟩
  exact not_sameValue_of_member declaration.member?_type nofun objects entries

/-- Sections with the same JSON value are the same section, for rules, however deep their variants
are nested, and for generators. In particular a declaration that stands by itself is never taken
for a map, whatever its paths are called, and a status class never for a list of codes. -/
theorem toJson_unambiguous :
    (∀ first second : Ordered RuleSet.KeysOrdered,
        (first.declarations.toJson RuleSet.toJson).SameValue
            (second.declarations.toJson RuleSet.toJson) →
          first.declarations = second.declarations) ∧
      (∀ first second : Ordered fun _ : Generator => True,
        (first.declarations.toJson Generator.toJson).SameValue
            (second.declarations.toJson Generator.toJson) →
          first.declarations = second.declarations) ∧
      (∀ ruleSet (entries : Keyed RuleSet), ¬ ((bare ruleSet).toJson RuleSet.toJson).SameValue
        ((byPath entries).toJson RuleSet.toJson)) ∧
      (∀ declaration (entries : Keyed Generator),
        ¬ ((bare declaration).toJson Generator.toJson).SameValue
          ((byPath entries).toJson Generator.toJson)) ∧
      ∀ statusClass codes, ¬ (StatusRange.statusClass statusClass).toJson.SameValue
        (StatusRange.codes codes).toJson := by
  refine ⟨?_, ?_, not_sameValue_rules, not_sameValue_generators, ?_⟩
  · exact fun _ _ => eq_of_sameValue (fun _ _ => RuleSet.eq_of_sameValue) not_sameValue_rules
  · exact fun _ _ => eq_of_sameValue (fun _ _ _ _ => Generator.eq_of_sameValue)
      not_sameValue_generators
  · exact fun _ _ same => nomatch StatusRange.eq_of_sameValue same

/-- Paths may be called like parameters. Sections that were filled in different orders have one
written form, so they are the same section. -/
theorem toJson_unambiguous_of_matchers :
    let inner : RuleSet := ⟨[.sameType, .statusCode (.statusClass .error)], some .all⟩
    let variant : Variant := ⟨0, [("matchers", inner)], [("type", .uuid (some .urn))]⟩
    let outer : RuleSet := ⟨[.arrayContains [variant]], none⟩
    let rules := byPath [("combine", inner), ("matchers", outer)]
    let rules' := byPath (Keyed.ofList [("matchers", outer), ("combine", inner)])
    let date := Generator.calendar .date (some "type") none
    let generators := byPath [("format", .randomInt (-1) 9), ("type", date)]
    let generators' := byPath (Keyed.ofList [("type", date), ("format", .randomInt (-1) 9)])
    rules.KeysOrdered RuleSet.KeysOrdered ∧ rules'.KeysOrdered RuleSet.KeysOrdered ∧
      (rules.toJson RuleSet.toJson).SameValue (rules'.toJson RuleSet.toJson) ∧ rules = rules' ∧
      generators.KeysOrdered (fun _ => True) ∧ generators'.KeysOrdered (fun _ => True) ∧
      (generators.toJson Generator.toJson).SameValue (generators'.toJson Generator.toJson) ∧
      generators = generators' := by
  intro inner variant outer rules rules' date generators generators'
  have innerOrdered : inner.KeysOrdered :=
    .intro (by decide) (by decide) (by simp [inner, Rule.sameType, Rule.variants])
  have outerOrdered : outer.KeysOrdered :=
    .intro (by decide) (by decide) (by simpa [outer, variant, Rule.variants] using innerOrdered)
  have ordered : rules.KeysOrdered RuleSet.KeysOrdered :=
    ⟨by decide, List.forall_mem_cons.mpr ⟨innerOrdered, List.forall_mem_singleton.mpr outerOrdered⟩⟩
  have filled : ∀ entry ∈ [("matchers", outer), ("combine", inner)], entry.2.KeysOrdered :=
    List.forall_mem_cons.mpr ⟨outerOrdered, List.forall_mem_singleton.mpr innerOrdered⟩
  have ordered' : rules'.KeysOrdered RuleSet.KeysOrdered :=
    ⟨Keyed.ordered_ofList _, fun entry member => filled entry (Keyed.mem_of_mem_ofList member)⟩
  have orderedGenerators : generators.KeysOrdered (fun _ => True) :=
    ⟨by decide, fun _ _ => trivial⟩
  have orderedGenerators' : generators'.KeysOrdered (fun _ => True) :=
    ⟨Keyed.ordered_ofList _, fun _ _ => trivial⟩
  have sorted : Keyed.ofList [("matchers", outer), ("combine", inner)] =
      [("combine", inner), ("matchers", outer)] := if_pos (by decide)
  have same : (rules.toJson RuleSet.toJson).SameValue (rules'.toJson RuleSet.toJson) :=
    congrArg (fun entries => ((byPath entries).toJson RuleSet.toJson).inKeyOrder) sorted.symm
  have sortedGenerators : Keyed.ofList [("type", date), ("format", .randomInt (-1) 9)] =
      [("format", .randomInt (-1) 9), ("type", date)] := if_pos (by decide)
  have sameGenerators :
      (generators.toJson Generator.toJson).SameValue (generators'.toJson Generator.toJson) :=
    congrArg (fun entries => ((byPath entries).toJson Generator.toJson).inKeyOrder)
      sortedGenerators.symm
  obtain ⟨forRules, forGenerators, -⟩ := toJson_unambiguous
  exact ⟨ordered, ordered', same, forRules ⟨rules, ordered⟩ ⟨rules', ordered'⟩ same,
    orderedGenerators, orderedGenerators', sameGenerators,
    forGenerators ⟨generators, orderedGenerators⟩ ⟨generators', orderedGenerators'⟩
      sameGenerators⟩

end Declarations

end ConsumerContract
