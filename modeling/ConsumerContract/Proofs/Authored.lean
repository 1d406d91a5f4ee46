/-
This file proves that authored trees declare what can be used. Every constructor of
matchers and generators checks its parameters, or brings them into their range, and
so does the reader of markers. Three checks are missing, and they are the only ones:
a text that is generated like a sample may have any size, a marker for random
integers is not checked beside a value, and bounds of a type are not checked beside
a generator. Trees that were built without these three have usable declarations, for
every element and in every variant.
-/

import ConsumerContract.Proofs.Usable

namespace ConsumerContract

namespace Node

/-! ### Usable nodes from usable parts -/

theorem allUsable_scalar (value : Scalar) : (scalar value).AllUsable :=
  allUsable_iff.mpr ⟨trivial, nofun⟩

theorem allUsable_of_isInvalid {node : Node} (invalid : node.IsInvalid) : node.AllUsable := by
  cases node with
  | invalid description problem => exact allUsable_iff.mpr ⟨trivial, nofun⟩
  | _ => exact invalid.elim

theorem allUsable_sequence {items : List Node} :
    (sequence items).AllUsable ↔ ∀ item ∈ items, item.AllUsable :=
  allUsable_iff.trans (and_iff_right trivial)

theorem allUsable_arrayContains {variants : List Node} :
    (arrayContains variants).AllUsable ↔ ∀ variant ∈ variants, variant.AllUsable :=
  allUsable_iff.trans (and_iff_right trivial)

theorem allUsable_mapping {members : List (String × Node)} :
    (mapping members).AllUsable ↔ ∀ entry ∈ members, entry.2.AllUsable := by
  rw [allUsable_iff, children, List.forall_mem_map]
  exact and_iff_right trivial

theorem allUsable_generator {declaration : Generator} {sample : Node} :
    (generator declaration sample).AllUsable ↔ declaration.IsUsable ∧ sample.AllUsable :=
  allUsable_iff.trans (and_congr_right fun _ => List.forall_mem_singleton)

theorem allUsable_composite {rule : Rule} {declaration : Generator} {sample : Node} :
    (composite rule declaration sample).AllUsable ↔
      (rule.IsUsable ∧ declaration.IsUsable) ∧ sample.AllUsable :=
  allUsable_iff.trans (and_congr_right fun _ => List.forall_mem_singleton)

theorem allUsable_matcher {rules : List Rule} {combine : Option Combination} {sample : Node} :
    (matcher rules combine sample).AllUsable ↔
      (∀ rule ∈ rules, rule.IsUsable) ∧ sample.AllUsable :=
  allUsable_iff.trans (and_congr_right fun _ => List.forall_mem_singleton)

theorem allUsable_single {rule : Rule} {sample : Node} :
    (Matcher.single rule sample).AllUsable ↔ rule.IsUsable ∧ sample.AllUsable :=
  allUsable_matcher.trans (and_congr_left fun _ => List.forall_mem_singleton)

theorem allUsable_repetition {sample : Node} {min max : Option UInt64} (fits : BoundsFit min max)
    (inner : sample.AllUsable) :
    (repetition (Matcher.asCollection sample) min max).AllUsable := by
  refine allUsable_iff.mpr ⟨fits, List.forall_mem_singleton.mpr ?_⟩
  cases sample with
  | sequence items => exact inner
  | mapping members => exact inner
  | _ => exact allUsable_sequence.mpr (List.forall_mem_singleton.mpr inner)

theorem allUsable_ite {condition : Prop} [Decidable condition] {first second : Node}
    (usable : condition → first.AllUsable) (otherwise : ¬ condition → second.AllUsable) :
    (if condition then first else second).AllUsable := by
  split
  · rename_i holds
    exact usable holds
  · rename_i fails
    exact otherwise fails

/-- A node behind the check of its format is invalid, or the format can be read. -/
theorem allUsable_withFormat {node : Node} (kind value format : String)
    (usable : IsDateFormat format → node.AllUsable) :
    (Matcher.withFormat kind value format node).AllUsable := by
  unfold Matcher.withFormat
  split
  · rename_i pattern read
    exact usable ⟨pattern, read⟩
  · exact allUsable_of_isInvalid trivial

end Node

theorem Rule.sameType_isUsable : sameType.IsUsable :=
  nofun

theorem Rule.statusCode_isUsable {status : StatusRange} {code : UInt16}
    (usable : status.sampleCode? = some code) : (statusCode status).IsUsable := by
  cases status with
  | statusClass name => trivial
  | codes codes =>
    rintro rfl
    cases usable

/-! ### Matchers -/

namespace Matcher

/-- The node is what a constructor of matchers makes of these samples. -/
inductive Makes : List Node → Node → Prop where
  | like (sample : Node) : Makes [sample] (like sample)
  | equalTo (sample : Node) : Makes [sample] (equalTo sample)
  | integer (value : Int64) : Makes [] (integer value)
  | decimal (sample : Node) : Makes [sample] (decimal sample)
  | number (sample : Node) : Makes [sample] (number sample)
  | null : Makes [] null
  | boolean (value : Bool) : Makes [] (boolean value)
  | notEmpty (sample : Node) : Makes [sample] (notEmpty sample)
  | semver (value : String) : Makes [] (semver value)
  | regex (pattern sample : String) : Makes [] (regex pattern sample)
  | oneOf (values : List String) : Makes [] (oneOf values)
  | ip4Address : Makes [] ip4Address
  | ip6Address : Makes [] ip6Address
  | hexadecimal : Makes [] hexadecimal
  | base64 : Makes [] base64
  | uuid (sample : String) : Makes [] (uuid sample)
  | includes (values : List String) (combine : Combination) : Makes [] (includes values combine)
  | includesWithSample (values : List String) (combine : Combination) (sample : String) :
    Makes [] (includesWithSample values combine sample)
  | datetime (value format : String) : Makes [] (datetime value format)
  | date (value format : String) : Makes [] (date value format)
  | time (value format : String) : Makes [] (time value format)
  | statusCode (status : StatusRange) : Makes [] (statusCode status)
  | eachLike (sample : Node) : Makes [sample] (eachLike sample)
  | eachLikeWithin (sample : Node) (min max : Option UInt64) :
    Makes [sample] (eachLikeWithin sample min max)
  | eachKeyLike (sample : Node) : Makes [sample] (eachKeyLike sample)
  | arrayContains (variants : List Node) : Makes variants (arrayContains variants)

open Node

theorem allUsable_eachLikeWithin (min max : Option UInt64) {sample : Node}
    (inner : sample.AllUsable) : (eachLikeWithin sample min max).AllUsable := by
  rcases eachLikeWithin_cases sample min max with invalid | ⟨fits, same⟩
  · exact allUsable_of_isInvalid invalid
  · rw [same]
    exact allUsable_repetition fits inner

theorem allUsable_statusCode (status : StatusRange) : (statusCode status).AllUsable := by
  rcases statusCode_cases status with invalid | ⟨code, usable, same⟩
  · exact allUsable_of_isInvalid invalid
  · rw [same]
    exact allUsable_single.mpr ⟨Rule.statusCode_isUsable usable, allUsable_scalar _⟩

theorem allUsable_includesWithSample (values : List String) (combine : Combination)
    (sample : String) : (includesWithSample values combine sample).AllUsable := by
  cases values with
  | nil => exact allUsable_of_isInvalid trivial
  | cons first rest =>
    exact allUsable_matcher.mpr ⟨List.forall_mem_map.mpr fun _ _ => trivial, allUsable_scalar _⟩

theorem Makes.allUsable {samples : List Node} {node : Node} (made : Makes samples node)
    (each : ∀ sample ∈ samples, sample.AllUsable) : node.AllUsable := by
  have leaf (rule : Rule) (usable : rule.IsUsable) (value : Scalar) :
      (single rule (.scalar value)).AllUsable :=
    allUsable_single.mpr ⟨usable, allUsable_scalar value⟩
  cases made with
  | like sample => exact allUsable_single.mpr ⟨Rule.sameType_isUsable, each _ List.mem_cons_self⟩
  | equalTo sample => exact allUsable_single.mpr ⟨trivial, each _ List.mem_cons_self⟩
  | decimal sample => exact allUsable_single.mpr ⟨trivial, each _ List.mem_cons_self⟩
  | number sample => exact allUsable_single.mpr ⟨trivial, each _ List.mem_cons_self⟩
  | notEmpty sample => exact allUsable_single.mpr ⟨trivial, each _ List.mem_cons_self⟩
  | eachKeyLike sample =>
    exact allUsable_single.mpr ⟨Rule.sameType_isUsable, each _ List.mem_cons_self⟩
  | integer value => exact leaf .integer trivial _
  | null => exact leaf .null trivial _
  | boolean value => exact leaf .boolean trivial _
  | semver value => exact leaf .semver trivial _
  | regex pattern sample => exact leaf (.regex _) trivial _
  | ip4Address => exact leaf (.regex _) trivial _
  | ip6Address => exact leaf (.regex _) trivial _
  | hexadecimal => exact leaf (.regex _) trivial _
  | base64 => exact leaf (.regex _) trivial _
  | uuid sample => exact leaf (.regex _) trivial _
  | oneOf values =>
    cases values with
    | nil => exact allUsable_of_isInvalid trivial
    | cons first rest => exact leaf (.regex _) trivial _
  | includes values combine => exact allUsable_includesWithSample _ _ _
  | includesWithSample values combine sample => exact allUsable_includesWithSample _ _ _
  | datetime value format =>
    exact allUsable_withFormat _ _ _ fun read => leaf (.timestamp format) read _
  | date value format => exact allUsable_withFormat _ _ _ fun read => leaf (.date format) read _
  | time value format => exact allUsable_withFormat _ _ _ fun read => leaf (.time format) read _
  | statusCode status => exact allUsable_statusCode status
  | eachLike sample => exact allUsable_eachLikeWithin _ _ (each _ List.mem_cons_self)
  | eachLikeWithin sample min max =>
    exact allUsable_eachLikeWithin min max (each _ List.mem_cons_self)
  | arrayContains variants =>
    rcases arrayContains_cases samples with invalid | same
    · exact allUsable_of_isInvalid invalid
    · rw [same]
      exact allUsable_arrayContains.mpr each

end Matcher

/-! ### Generators -/

namespace Generated

/-- The node is what a constructor of generators makes. -/
inductive Makes (source : ExampleSource) : Node → Prop where
  | bool : Makes source (bool source)
  | integer (min max : Int64) : Makes source (integer source min max)
  | decimal (digits : UInt8) : Makes source (decimal source digits)
  | hexadecimal (digits : UInt8) : Makes source (hexadecimal source digits)
  | string (size : UInt64) : Makes source (string source size)
  | stringMatching (pattern sample : String) : Makes source (stringMatching pattern sample)
  | calendar (part : CalendarPart) (format expression : Option String) :
    Makes source (calendar source part format expression)
  | dateTimeExpression (expression format : String) :
    Makes source (dateTimeExpression source expression format)
  | uuid (format : Option UuidFormat) : Makes source (uuid source format)

open Node

variable (source : ExampleSource)

theorem integer_cases (min max : Int64) :
    (integer source min max).IsInvalid ∨
      min ≤ max ∧ ∃ value,
        integer source min max = .generator (.randomInt min max) (.scalar (.integer value)) := by
  unfold integer
  dsimp only
  split
  · exact Or.inl trivial
  · rename_i fits
    exact Or.inr ⟨Int64.not_lt.mp fits, _, rfl⟩

theorem cappedDigits_isUsable {digits : UInt8} (some : digits ≠ 0) :
    (Generator.randomDecimal (min digits Generator.maxDecimalDigits)).IsUsable := by
  have least : min digits Generator.maxDecimalDigits =
      if digits ≤ Generator.maxDecimalDigits then digits else Generator.maxDecimalDigits := rfl
  rw [least]
  split
  · rename_i few
    have positive : 0 < digits.toNat :=
      Nat.pos_of_ne_zero fun zero => some (UInt8.toNat_inj.mp zero)
    exact ⟨UInt8.le_iff_toNat_le.mpr positive, few⟩
  · exact ⟨by decide, by decide⟩

theorem calendar_isUsable {part : CalendarPart} {format expression : Option String} {text : String}
    (read : source.calendarText part format = .ok text) :
    (Generator.calendar part format expression).IsUsable := by
  rintro given rfl
  unfold ExampleSource.calendarText at read
  dsimp only at read
  cases parsed : DatePattern.ofText given with
  | ok pattern => exact ⟨pattern, parsed⟩
  | error fault =>
    rw [parsed] at read
    cases read

theorem Makes.allUsable {source : ExampleSource} {node : Node} (made : Makes source node) :
    node.AllUsable := by
  have leaf (declaration : Generator) (usable : declaration.IsUsable) (value : Scalar) :
      (Node.generator declaration (.scalar value)).AllUsable :=
    allUsable_generator.mpr ⟨usable, allUsable_scalar value⟩
  have moment (part : CalendarPart) (format expression : Option String) :
      (Generated.calendar source part format expression).AllUsable := by
    unfold Generated.calendar
    split
    · rename_i text read
      exact leaf _ (calendar_isUsable source read) _
    · exact allUsable_of_isInvalid trivial
  cases made with
  | bool => exact leaf .randomBoolean trivial _
  | integer min max =>
    rcases integer_cases source min max with invalid | ⟨fits, value, same⟩
    · exact allUsable_of_isInvalid invalid
    · rw [same]
      exact leaf (.randomInt min max) fits _
  | decimal digits =>
    exact allUsable_ite (fun _ => allUsable_of_isInvalid trivial) fun some =>
      leaf _ (cappedDigits_isUsable some) _
  | hexadecimal digits => exact leaf (.randomHexadecimal _) trivial _
  | string size =>
    exact allUsable_ite (fun _ => allUsable_of_isInvalid trivial) fun fits =>
      leaf (.randomString size) (UInt64.not_lt.mp fits) _
  | stringMatching pattern sample => exact leaf (.regex _) trivial _
  | calendar part format expression => exact moment part format expression
  | dateTimeExpression expression format => exact moment .dateTime (some format) (some expression)
  | uuid format => exact leaf (.uuid _) trivial _

theorem allUsable_ofDeclaration (declaration : Generator) :
    (ofDeclaration source declaration).AllUsable := by
  cases declaration with
  | randomBoolean => exact Makes.bool.allUsable
  | randomInt min max => exact (Makes.integer min max).allUsable
  | randomDecimal digits => exact (Makes.decimal digits).allUsable
  | randomHexadecimal digits => exact (Makes.hexadecimal digits).allUsable
  | randomString size => exact (Makes.string size).allUsable
  | calendar part format expression => exact (Makes.calendar part format expression).allUsable
  | uuid format => exact (Makes.uuid format).allUsable
  | mockServerUrl sample pattern => exact allUsable_generator.mpr ⟨trivial, allUsable_scalar _⟩
  | regex pattern => exact allUsable_of_isInvalid trivial
  | providerState expression => exact allUsable_of_isInvalid trivial

end Generated

/-! ### Matchers with generators -/

namespace Composite

/-- The node is what a constructor of matchers with generators makes of these samples. The size of
a text that is generated like a sample is within the limit, which is not checked. -/
inductive Makes (source : ExampleSource) : List Node → Node → Prop where
  | ofProviderState (parameter : String) (sample : Node) :
    Makes source [sample] (ofProviderState parameter sample)
  | string (sample : String) (size : Option UInt64)
    (fits : size.getD (UInt64.ofNat sample.length) ≤ Generator.maxStringSize) :
    Makes source [] (string sample size)
  | integer (sample min max : Int64) : Makes source [] (integer sample min max)
  | anyInteger (min max : Int64) : Makes source [] (anyInteger source min max)
  | decimal (sample : Node) (digits : UInt8) : Makes source [sample] (decimal sample digits)
  | boolean : Makes source [] boolean
  | uuid (sample : String) (format : UuidFormat) : Makes source [] (uuid sample format)
  | hexadecimal (sample : String) (digits : Option UInt8) :
    Makes source [] (hexadecimal sample digits)
  | calendar (part : CalendarPart) (sample format : String) (expression : Option String) :
    Makes source [] (calendar part sample format expression)
  | mockServerUrl (sample pattern : String) : Makes source [] (mockServerUrl sample pattern)

open Node

theorem allUsable_like {declaration : Generator} {sample : Node} :
    (like declaration sample).AllUsable ↔ declaration.IsUsable ∧ sample.AllUsable := by
  rw [like, allUsable_composite, and_iff_right Rule.sameType_isUsable]

theorem Makes.allUsable {source : ExampleSource} {samples : List Node} {node : Node}
    (made : Makes source samples node) (each : ∀ sample ∈ samples, sample.AllUsable) :
    node.AllUsable := by
  have leaf (declaration : Generator) (usable : declaration.IsUsable) (value : Scalar) :
      (like declaration (.scalar value)).AllUsable :=
    allUsable_like.mpr ⟨usable, allUsable_scalar value⟩
  cases made with
  | ofProviderState parameter sample =>
    exact allUsable_like.mpr ⟨trivial, each _ List.mem_cons_self⟩
  | string sample size fits => exact leaf (.randomString _) fits _
  | integer sample min max =>
    exact allUsable_ite (fun _ => allUsable_of_isInvalid trivial) fun fits =>
      leaf (.randomInt min max) (Int64.not_lt.mp fits) _
  | anyInteger min max =>
    unfold Composite.anyInteger
    rcases Generated.integer_cases source min max with invalid | ⟨fits, value, same⟩
    · cases shape : Generated.integer source min max with
      | invalid description problem => exact allUsable_of_isInvalid trivial
      | _ =>
        rw [shape] at invalid
        exact invalid.elim
    · rw [same]
      exact leaf (.randomInt min max) fits _
  | decimal sample digits =>
    refine allUsable_like.mpr ⟨Generated.cappedDigits_isUsable ?_, each _ List.mem_cons_self⟩
    have greatest : max digits 1 = if digits ≤ 1 then 1 else digits := rfl
    rw [greatest]
    split
    · decide
    · rename_i many
      rintro rfl
      exact many (by decide)
  | boolean => exact leaf .randomBoolean trivial _
  | uuid sample format =>
    exact allUsable_ite (fun _ => leaf (.uuid _) trivial _) fun _ => allUsable_of_isInvalid trivial
  | hexadecimal sample digits =>
    cases digits with
    | some digits => exact leaf (.randomHexadecimal _) trivial _
    | none =>
      exact allUsable_ite (fun _ => leaf (.randomHexadecimal _) trivial _) fun _ =>
        allUsable_of_isInvalid trivial
  | calendar part sample format expression =>
    refine allUsable_withFormat _ _ _ fun read => leaf (.calendar _ _ _) ?_ _
    rintro given same
    exact Option.some.inj same ▸ read
  | mockServerUrl sample pattern => exact leaf (.mockServerUrl _ _) trivial _

end Composite

/-! ### Markers -/

namespace Marker

variable {kind : String} {fields : MarkerFields}

theorem isDateFormat_of_checkFormat {format : String}
    (read : checkFormat kind format = .ok ()) : IsDateFormat format := by
  unfold checkFormat at read
  cases parsed : DatePattern.ofText format with
  | ok pattern => exact ⟨pattern, parsed⟩
  | error fault =>
    rw [parsed] at read
    cases read

theorem isDateFormat_of_dateFormat {format : String}
    (read : rule.dateFormat fields kind = .ok format) : IsDateFormat format := by
  unfold rule.dateFormat at read
  simp only [bind_eq_ok] at read
  obtain ⟨given, _, _, checked, same⟩ := read
  exact Except.ok.inj same ▸ isDateFormat_of_checkFormat checked

/-- The reader of rules leaves open only whether the bounds of a type fit. -/
theorem rule_isUsable {declared : Rule} (read : rule kind fields = .ok declared) :
    declared.IsUsable ∨ kind = "type" ∧ ∃ min max, declared = .type min max := by
  unfold rule at read
  split at read
  · simp only [bind_eq_ok] at read
    obtain ⟨min, _, max, _, same⟩ := read
    exact Or.inr ⟨rfl, min, max, (Except.ok.inj same).symm⟩
  -- The rules without parameters, those with a text, those with a format and the refused ones.
  iterate 8
    · rw [← Except.ok.inj read]
      exact Or.inl trivial
  iterate 2
    · obtain ⟨text, _, same⟩ := bind_eq_ok.mp read
      rw [← Except.ok.inj same]
      exact Or.inl trivial
  iterate 4
    · obtain ⟨format, given, same⟩ := bind_eq_ok.mp read
      rw [← Except.ok.inj same]
      exact Or.inl (isDateFormat_of_dateFormat given)
  iterate 4
    · cases read

theorem calendarDeclaration_isUsable {part : CalendarPart} {declared : Generator}
    (read : calendarDeclaration part fields = .ok declared) : declared.IsUsable := by
  unfold calendarDeclaration at read
  obtain ⟨format, _, read⟩ := bind_eq_ok.mp read
  cases format with
  | none =>
    obtain ⟨_, _, read⟩ := bind_eq_ok.mp read
    obtain ⟨expression, _, same⟩ := bind_eq_ok.mp read
    rw [← Except.ok.inj same]
    nofun
  | some format =>
    obtain ⟨_, checked, read⟩ := bind_eq_ok.mp read
    obtain ⟨expression, _, same⟩ := bind_eq_ok.mp read
    rw [← Except.ok.inj same]
    intro given isFormat
    exact Option.some.inj isFormat ▸ isDateFormat_of_checkFormat checked

theorem uuidDeclaration_isUsable {declared : Generator}
    (read : uuidDeclaration kind fields = .ok declared) : declared.IsUsable := by
  unfold uuidDeclaration at read
  rw [bind_eq_ok] at read
  obtain ⟨name, _, read⟩ := read
  split at read
  · rw [← Except.ok.inj read]
    trivial
  · split at read
    · rw [← Except.ok.inj read]
      trivial
    · cases read

theorem cappedCount_isUsable {count : UInt64} (some : count ≠ 0) :
    (Generator.randomDecimal (cappedCount count Generator.maxDecimalDigits)).IsUsable := by
  have positive : 0 < count.toNat := Nat.pos_of_ne_zero fun zero => some (UInt64.toNat_inj.mp zero)
  have nine : Generator.maxDecimalDigits.toNat = 9 := rfl
  have capped : (cappedCount count Generator.maxDecimalDigits).toNat = min count.toNat 9 := by
    rw [cappedCount, nine]
    exact UInt8.toNat_ofNat_of_lt' (Nat.lt_of_le_of_lt (Nat.min_le_right _ _) (by decide))
  constructor
  · rw [UInt8.le_iff_toNat_le, capped]
    exact Nat.le_min.mpr ⟨positive, by decide⟩
  · rw [UInt8.le_iff_toNat_le, capped]
    exact Nat.min_le_right _ _

/-- The reader of generators leaves open only whether the bounds of an integer fit. -/
theorem declaration_isUsable {declared : Generator}
    (read : declaration kind fields = .ok declared) :
    declared.IsUsable ∨ kind = "RandomInt" ∧ ∃ min max, declared = .randomInt min max := by
  unfold declaration at read
  split at read
  · rw [← Except.ok.inj read]
    exact Or.inl trivial
  · simp only [bind_eq_ok] at read
    obtain ⟨min, _, max, _, same⟩ := read
    exact Or.inr ⟨rfl, _, _, (Except.ok.inj same).symm⟩
  · obtain ⟨digits, _, read⟩ := bind_eq_ok.mp read
    dsimp only at read
    split at read
    · cases read
    · rename_i some
      rw [← Except.ok.inj read]
      exact Or.inl (cappedCount_isUsable some)
  · obtain ⟨digits, _, same⟩ := bind_eq_ok.mp read
    rw [← Except.ok.inj same]
    exact Or.inl trivial
  · obtain ⟨size, _, read⟩ := bind_eq_ok.mp read
    dsimp only at read
    split at read
    · cases read
    · rename_i fits
      rw [← Except.ok.inj read]
      exact Or.inl (UInt64.not_lt.mp fits)
  · obtain ⟨text, _, same⟩ := bind_eq_ok.mp read
    rw [← Except.ok.inj same]
    exact Or.inl trivial
  iterate 3
    · exact Or.inl (calendarDeclaration_isUsable read)
  · exact Or.inl (uuidDeclaration_isUsable read)
  · obtain ⟨text, _, same⟩ := bind_eq_ok.mp read
    rw [← Except.ok.inj same]
    exact Or.inl trivial
  · simp only [bind_eq_ok] at read
    obtain ⟨sample, _, text, _, same⟩ := read
    rw [← Except.ok.inj same]
    exact Or.inl trivial
  · cases read

/-- The bounds that the reader does not check fit: those of random integers beside a value, and
those of a type beside a generator. -/
def BoundsUsable (fields : MarkerFields) : Prop :=
  (kind? fields generatorKey = some "RandomInt" → Keyed.contains "value" fields = true →
      ∀ min max, declaration "RandomInt" fields = .ok (.randomInt min max) → min ≤ max) ∧
    (kind? fields matcherKey = some "type" → Keyed.contains generatorKey fields = true →
      ∀ min max, rule "type" fields = .ok (.type min max) → BoundsFit min max)

theorem boundsFit_of_absent {least greatest : Option UInt64}
    (read : rule "type" fields = .ok (.type least greatest))
    (absent : Keyed.contains "min" fields = false) : BoundsFit least greatest := by
  obtain ⟨min, given, read⟩ := bind_eq_ok.mp read
  obtain ⟨max, _, same⟩ := bind_eq_ok.mp read
  obtain ⟨rfl, rfl⟩ := Rule.type.inj (Except.ok.inj same)
  rw [Keyed.contains, Option.isSome_eq_false_iff, Option.isNone_iff_eq_none] at absent
  rw [optionalCount, absent] at given
  rw [← Except.ok.inj given]
  exact fun lower member => absurd member (Option.not_mem_none lower)

theorem declaration_isUsable_of_made {source : ExampleSource} {declared generated : Generator}
    {leaf : Scalar} (read : declaration kind fields = .ok declared)
    (made : Generated.ofDeclaration source declared = .generator generated (.scalar leaf)) :
    declared.IsUsable := by
  rcases declaration_isUsable read with usable | ⟨_, min, max, rfl⟩
  · exact usable
  · rcases Generated.integer_cases source min max with invalid | ⟨fits, _⟩
    · rw [Generated.ofDeclaration] at made
      rw [made] at invalid
      exact invalid.elim
    · exact fits

variable {source : ExampleSource} {sample : Option Node} {variants : Option (List Node)}
  {node : Node}

/-- The node of a marker declares what is usable if the bounds that are not checked fit. -/
theorem StandsFor.allUsable (stands : StandsFor source fields sample variants node)
    (bounds : BoundsUsable fields) (beside : sample ≠ none → Keyed.contains "value" fields = true)
    (inner : ∀ value, sample = some value → value.AllUsable)
    (each : ∀ items, variants = some items → ∀ item ∈ items, item.AllUsable) :
    node.AllUsable := by
  have ruled {kind : String} {declared : Rule} (named : kind? fields matcherKey = some kind)
      (generates : Keyed.contains generatorKey fields = true)
      (read : rule kind fields = .ok declared) : declared.IsUsable := by
    rcases rule_isUsable read with usable | ⟨rfl, min, max, rfl⟩
    · exact usable
    · exact bounds.2 named generates min max read
  have generated {kind : String} {declared : Generator} {value : Node}
      (named : kind? fields generatorKey = some kind) (given : sample = some value)
      (read : declaration kind fields = .ok declared) : declared.IsUsable := by
    rcases declaration_isUsable read with usable | ⟨rfl, min, max, rfl⟩
    · exact usable
    · exact bounds.1 named (beside (by rw [given]; nofun)) min max read
  cases stands with
  | repetition repeats given fits => exact Node.allUsable_repetition fits (inner _ given)
  | arrayContains named alone given => exact Node.allUsable_arrayContains.mpr (each _ given)
  | statusCode named alone read usable =>
    exact Node.allUsable_single.mpr ⟨Rule.statusCode_isUsable usable, Node.allUsable_scalar _⟩
  | matcher named alone once declared given =>
    refine Node.allUsable_single.mpr ⟨?_, inner _ given⟩
    rcases rule_isUsable declared with usable | ⟨rfl, min, max, rfl⟩
    · exact usable
    · refine boundsFit_of_absent declared (Bool.eq_false_iff.mpr fun bounded => ?_)
      exact once ⟨alone, Or.inr ⟨named, Or.inl bounded⟩⟩
  | generator named alone declared given =>
    exact Node.allUsable_generator.mpr ⟨generated named given declared, inner _ given⟩
  | composite named generates described declared given =>
    refine Node.allUsable_composite.mpr
      ⟨⟨ruled named (contains_of_kind? generates) described, generated generates given declared⟩,
        inner _ given⟩
  | computed named alone declared absent made =>
    exact made ▸ Generated.allUsable_ofDeclaration source _
  | computedComposite named generates described declared absent made =>
    exact Node.allUsable_composite.mpr
      ⟨⟨ruled named (contains_of_kind? generates) described,
        declaration_isUsable_of_made declared made⟩, Node.allUsable_scalar _⟩

end Marker

/-- If the value is a marker, the bounds in it that are not checked fit. -/
def Json.HasUsableBounds : Json → Prop
  | object fields => Marker.isMarker fields = true → Marker.BoundsUsable fields
  | _ => True

/-- In every marker in the value, the bounds that are not checked fit. -/
def Json.BoundsUsable (value : Json) : Prop :=
  ∀ part, value.Contains part → part.HasUsableBounds

namespace Node

theorem allUsable_ofNumeral (numeral : Numeral) : (ofNumeral numeral).AllUsable := by
  rcases numeral.leaf_follows with ⟨_, read⟩ | ⟨leaf, _, read, _⟩
  · rw [read]
    exact allUsable_of_isInvalid trivial
  · rw [read]
    exact allUsable_scalar leaf

/-- A tree that was authored as JSON declares what is usable. -/
theorem allUsable_ofMarkedJson {value : Json} (bounds : value.BoundsUsable)
    (source : ExampleSource) : (ofMarkedJson source value).AllUsable := by
  induction value generalizing source with
  | null => exact allUsable_scalar _
  | bool value => exact allUsable_scalar _
  | string text => exact allUsable_scalar _
  | number numeral => exact allUsable_ofNumeral numeral
  | array items each =>
    refine allUsable_sequence.mpr fun node member => ?_
    obtain ⟨inner, item, found, rfl⟩ := exists_of_mem_ofMarkedItems member
    exact each item found (fun part inside => bounds part (.item found inside)) inner
  | object members each =>
    have below key value (member : (key, value) ∈ members) (inner : ExampleSource) :
        (ofMarkedJson inner value).AllUsable :=
      each key value member (fun part inside => bounds part (.member member inside)) inner
    cases marked : Marker.isMarker members with
    | false =>
      rw [ofMarkedJson, marked]
      refine allUsable_mapping.mpr ?_
      rintro ⟨key, node⟩ member
      obtain ⟨inner, written, found, same⟩ :=
        exists_of_mem_ofMarkedMembers (Keyed.mem_of_mem_ofList member)
      obtain ⟨rfl, rfl⟩ := Prod.mk.inj same
      exact below written.1 written.2 found inner
    | true =>
      rcases standsFor_of_marker marked with invalid | ⟨sample, variants, stands⟩
      · exact allUsable_of_isInvalid invalid
      refine stands.allUsable (bounds _ (.itself _) marked) ?_ ?_ ?_
      · intro given
        cases found : Keyed.find? "value" members with
        | none => exact absurd (by rw [found]; rfl) given
        | some value => rw [Keyed.contains, found, Option.isSome_some]
      · intro node given
        obtain ⟨value, found, rfl⟩ := Option.map_eq_some_iff.mp given
        exact below "value" value (Keyed.mem_of_find? found) sample
      · intro items given
        obtain ⟨inner, listed, shape⟩ := Option.bind_eq_some_iff.mp given
        obtain ⟨value, found, rfl⟩ := Option.map_eq_some_iff.mp listed
        have usable := below "variants" value (Keyed.mem_of_find? found) variants
        rw [sequenceItems?_eq_some.mp shape] at usable
        exact allUsable_sequence.mp usable

/-! ### Authored trees -/

/-- The tree was built from plain data with the constructors of matchers and generators, or it was
read from JSON with markers, or both. -/
inductive Authored : Node → Prop where
  | scalar (value : Scalar) : Authored (.scalar value)
  | sequence {items : List Node} (each : ∀ item ∈ items, Authored item) :
    Authored (.sequence items)
  | mapping {members : List (String × Node)} (each : ∀ entry ∈ members, Authored entry.2) :
    Authored (.mapping members)
  | invalid (description : String) (problem : Option String) :
    Authored (.invalid description problem)
  | matcher {samples : List Node} {node : Node} (made : Matcher.Makes samples node)
    (each : ∀ sample ∈ samples, Authored sample) : Authored node
  | generator {source : ExampleSource} {node : Node} (made : Generated.Makes source node) :
    Authored node
  | composite {source : ExampleSource} {samples : List Node} {node : Node}
    (made : Composite.Makes source samples node) (each : ∀ sample ∈ samples, Authored sample) :
    Authored node
  | marked (source : ExampleSource) {value : Json} (bounds : value.BoundsUsable) :
    Authored (ofMarkedJson source value)

theorem Authored.allUsable {node : Node} (authored : node.Authored) : node.AllUsable := by
  induction authored with
  | scalar value => exact allUsable_scalar value
  | sequence _ each => exact allUsable_sequence.mpr each
  | mapping _ each => exact allUsable_mapping.mpr each
  | invalid description problem => exact allUsable_of_isInvalid trivial
  | matcher made _ each => exact made.allUsable each
  | generator made => exact made.allUsable
  | composite made _ each => exact made.allUsable each
  | marked source bounds => exact allUsable_ofMarkedJson bounds source

/-- An authored tree that can be encoded has usable declarations only, for every element and at
every level of variants. Left out are the sizes and the bounds that no constructor checks. -/
theorem encode_authored_isUsable (node : Node) (authored : node.Authored) (element : Element)
    (maxDepth : Nat) (encoded : EncodedElement)
    (success : node.encode element maxDepth = .ok encoded) : encoded.declared.IsUsable :=
  authored.allUsable.declared_isUsable success

/-- A date, a text of three characters and a marker with a value between its bounds. -/
theorem encode_authored_isUsable_of_order :
    let source : ExampleSource := ⟨fun _ => 0, default⟩
    let count := [("max", Json.ofInt 5), ("min", .ofInt 1),
      ("pact:generator:type", .string "RandomInt"), ("value", .ofInt 3)]
    let order := Node.mapping
      [("at", Matcher.date "2024-02-29" "yyyy-MM-dd"), ("code", Composite.string "abc" none),
        ("count", ofMarkedJson source (.object count))]
    order.Authored ∧
      ∃ encoded, order.encode .body 3 = .ok encoded ∧ encoded.declared.IsUsable := by
  intro source count order
  have bounds : (Json.object count).BoundsUsable := by
    refine Json.forall_contains.mpr ⟨fun _ => ⟨fun _ _ min max read => ?_, fun named => ?_⟩, ?_⟩
    · have given : Marker.declaration "RandomInt" count = .ok (.randomInt 1 5) := rfl
      obtain ⟨rfl, rfl⟩ := Generator.randomInt.inj (Except.ok.inj (given.symm.trans read))
      decide
    · exact absurd named (by decide)
    · have leaf {value : Json} (alone : value.children = []) (plain : value.HasUsableBounds) :
          value.BoundsUsable := Json.forall_contains_leaf alone plain
      exact List.forall_mem_cons.mpr ⟨leaf rfl trivial, List.forall_mem_cons.mpr ⟨leaf rfl trivial,
        List.forall_mem_cons.mpr ⟨leaf rfl trivial,
          List.forall_mem_singleton.mpr (leaf rfl trivial)⟩⟩⟩
  have authored : order.Authored := by
    have date : (Matcher.date "2024-02-29" "yyyy-MM-dd").Authored := .matcher (.date _ _) (by nofun)
    have code : (Composite.string "abc" none).Authored :=
      .composite (@Composite.Makes.string source "abc" none (by decide)) (by nofun)
    exact .mapping (List.forall_mem_cons.mpr ⟨date, List.forall_mem_cons.mpr ⟨code,
      List.forall_mem_singleton.mpr (.marked source bounds)⟩⟩)
  have accepted : (order.encode .body 3).isOk = true := by decide +kernel
  cases outcome : order.encode .body 3 with
  | error failure =>
    rw [outcome] at accepted
    cases accepted
  | ok encoded =>
    exact ⟨authored, encoded, rfl,
      encode_authored_isUsable order authored .body 3 encoded outcome⟩

/-- Without the missing checks, three sorts of trees with unusable declarations are encoded: a
marker for random integers with a value, a type beside a generator, and a text like a sample. -/
theorem unusable_declarations_encoded :
    let source : ExampleSource := ⟨fun _ => 0, default⟩
    let count := Json.object [("max", .ofInt 1), ("min", .ofInt 5),
      ("pact:generator:type", .string "RandomInt"), ("value", .ofInt 3)]
    let flag := Json.object [("max", .ofInt 1), ("min", .ofInt 5),
      ("pact:generator:type", .string "RandomBoolean"), ("pact:matcher:type", .string "type"),
      ("value", .bool true)]
    let code := Composite.string "abc" (some 5000)
    (∃ value, (ofMarkedJson source count).encode .body 1 =
        .ok ⟨.body, value, none, some (.byPath [("$", .randomInt 5 1)])⟩) ∧
      (∃ value generators, (ofMarkedJson source flag).encode .body 1 =
        .ok ⟨.body, value, some (.byPath [("$", ⟨[.type (some 5) (some 1)], none⟩)]),
          generators⟩) ∧
      (∃ value rules, code.encode .body 1 =
        .ok ⟨.body, value, rules, some (.byPath [("$", .randomString 5000)])⟩) ∧
      ¬ (Generator.randomInt 5 1).IsUsable ∧ ¬ (Rule.type (some 5) (some 1)).IsUsable ∧
        ¬ (Generator.randomString 5000).IsUsable := by
  intro source count flag code
  refine ⟨⟨_, rfl⟩, ⟨_, _, rfl⟩, ⟨_, _, rfl⟩, fun usable => ?_, fun usable => ?_, fun usable => ?_⟩
  · have fits : (5 : Int64) ≤ 1 := usable
    exact absurd fits (by decide)
  · exact absurd (usable 5 rfl 1 rfl) (by decide)
  · have fits : (5000 : UInt64) ≤ Generator.maxStringSize := usable
    exact absurd fits (by decide)

end Node

end ConsumerContract
