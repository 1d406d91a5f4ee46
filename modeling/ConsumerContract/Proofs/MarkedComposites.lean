/-
This file compares the two ways to write a matcher with a generator: a constructor,
and a marker for a type that names the generator and gives its parameters and the
example. All parameters of a marker stand side by side in one object, and both the
rule and the generator are read from it. For most generators the tree is the same.
Two are read otherwise: the bounds of random integers are taken for bounds of the
type, which refuse negative numbers, and a marker refuses long random texts, which
the constructor does not.
-/

import ConsumerContract.Proofs.Authored
import ConsumerContract.Proofs.MarkedMatchers

namespace ConsumerContract

/-! ### Calls and their markers -/

namespace Composite

/-- A call of a constructor of matchers with generators, the example of which is written as
JSON. -/
inductive Call where
  | ofProviderState (parameter : String) (sample : Json)
  | string (sample : String) (size : Option UInt64)
  | integer (sample min max : Int64)
  | decimal (sample : Json) (digits : UInt8)
  | uuid (sample : String) (format : UuidFormat)
  | hexadecimal (sample : String) (digits : Option UInt8)
  | calendar (part : CalendarPart) (sample format : String) (expression : Option String)
  | mockServerUrl (sample pattern : String)

/-- The example of the call. -/
def Call.sample : Call → Json
  | ofProviderState _ sample | decimal sample _ => sample
  | string sample _ | uuid sample _ | hexadecimal sample _ | calendar _ sample _ _
  | mockServerUrl sample _ => .string sample
  | integer sample _ _ => .ofInt sample.toInt

/-- The generator that the constructor declares. -/
def Call.declaration : Call → Generator
  | ofProviderState parameter _ => .providerState parameter
  | string sample size => .randomString (size.getD (UInt64.ofNat sample.length))
  | integer _ min max => .randomInt min max
  | decimal _ digits => .randomDecimal (Min.min (Max.max digits 1) Generator.maxDecimalDigits)
  | uuid _ format => .uuid (some format)
  | hexadecimal sample digits => .randomHexadecimal (digits.getD (UInt8.ofNat sample.length))
  | calendar part _ format expression => .calendar part (some format) expression
  | mockServerUrl sample pattern => .mockServerUrl sample pattern

/-- What the constructor gives, where the tree of the example is given if it may be any tree. -/
def Call.node (tree : Node) : Call → Node
  | ofProviderState parameter _ => Composite.ofProviderState parameter tree
  | string sample size => Composite.string sample size
  | integer sample min max => Composite.integer sample min max
  | decimal _ digits => Composite.decimal tree digits
  | uuid sample format => Composite.uuid sample format
  | hexadecimal sample digits => Composite.hexadecimal sample digits
  | calendar part sample format expression => Composite.calendar part sample format expression
  | mockServerUrl sample pattern => Composite.mockServerUrl sample pattern

end Composite

/-- The members of a marker for a type with a generator: both kinds, the parameters of the
generator and the example. -/
def Generator.markerMembers (declaration : Generator) (sample : Json) : MarkerFields :=
  (Marker.matcherKey, .string "type") :: (Marker.generatorKey, .string declaration.kind) ::
    declaration.parameters ++ [("value", sample)]

theorem Generator.find?_value_markerMembers (declaration : Generator) (sample : Json) :
    Keyed.find? "value" (declaration.markerMembers sample) = some sample := by
  cases declaration with
  | calendar part format expression => cases format <;> cases expression <;> rfl
  | uuid format => cases format <;> rfl
  | _ => rfl

/-- The object has the members of the marker, in whatever order. -/
def Generator.IsMarkedBy (declaration : Generator) (sample : Json) (fields : MarkerFields) : Prop :=
  ∀ key, Keyed.find? key fields = Keyed.find? key (declaration.markerMembers sample)

/-- The parameters of the generator are not taken for others, and not refused, in a marker for a
type. -/
def Generator.ReadsApart : Generator → Prop
  | randomInt .. => False
  | randomString size => size ≤ maxStringSize
  | _ => True

/-! ### Numbers as JSON -/

theorem Numeral.toInt64?_ofInt (number : Int64) :
    (Numeral.ofInt number.toInt).toInt64? = some number := by
  rw [toInt64?, toInt?_ofInt, Option.bind_some,
    if_pos ⟨Int64.minValue_le_toInt number, Int64.toInt_le number⟩, Int64.ofInt_toInt]

theorem Numeral.toUInt64?_ofNat {number : Nat} (small : number < UInt64.size) :
    (Numeral.ofNat number).toUInt64? = some (UInt64.ofNat number) :=
  if_pos ⟨rfl, rfl, small⟩

theorem Numeral.toUInt64?_of_neg {number : Int64} (negative : number < 0) :
    (Numeral.ofInt number.toInt).toUInt64? = none := by
  have below : number.toInt < 0 := Int64.lt_iff_toInt_lt.mp negative
  refine if_neg ?_
  rintro ⟨_, positive, _⟩
  exact absurd below (of_decide_eq_false positive)

theorem Numeral.toUInt64?_of_nonneg {number : Int64} (positive : 0 ≤ number) :
    (Numeral.ofInt number.toInt).toUInt64? = some (UInt64.ofNat number.toInt.natAbs) := by
  have above : 0 ≤ number.toInt := Int64.le_iff_toInt_le.mp positive
  have greatest : number.toInt ≤ 9223372036854775807 := Int64.toInt_le number
  have small : number.toInt.natAbs < 18446744073709551616 := by omega
  exact if_pos ⟨rfl, decide_eq_false (by omega), small⟩

theorem Json.toUInt64?_ofNat_toNat (number : UInt64) :
    (Json.ofNat number.toNat).toUInt64? = some number := by
  rw [Json.ofNat, Json.toUInt64?, Numeral.toUInt64?_ofNat number.toNat_lt, UInt64.ofNat_toNat]

theorem Json.toUInt64?_ofNat_digits (digits : UInt8) :
    (Json.ofNat digits.toNat).toUInt64? = some (UInt64.ofNat digits.toNat) :=
  Numeral.toUInt64?_ofNat (Nat.lt_trans digits.toNat_lt (by decide))

/-! ### Reading both parts of a marker -/

namespace Marker

variable {source : ExampleSource} {fields : MarkerFields} {kind : String} {sample : Node}

/-- A marker for a type with a generator is read as both. -/
theorem node_of_both (named : kind? fields matcherKey = some "type")
    (generates : kind? fields generatorKey = some kind) (variants : Option (List Node)) :
    Marker.node source fields (tree? source fields "value") variants =
      composite source "type" kind fields (tree? source fields "value") := by
  rw [Marker.node, kindName?_of_kind? named, kindName?_of_kind? generates]
  rfl

theorem ofMarkedJson_of_fault {fault : MarkerFault} (marked : isMarker fields = true)
    (read : Marker.node source fields (tree? source fields "value")
      (variants? (Node.ofMarkedMembers source 0 fields)) = .error fault) :
    Node.ofMarkedJson source (.object fields) = fault.node := by
  rw [tree?] at read
  rw [Node.ofMarkedJson, if_pos marked, read]

theorem ofMarkedJson_of_both {declared : Rule} {declaration : Generator}
    (named : kind? fields matcherKey = some "type")
    (generates : kind? fields generatorKey = some kind)
    (given : tree? source fields "value" = some sample)
    (described : rule "type" fields = .ok declared)
    (read : Marker.declaration kind fields = .ok declaration) :
    Node.ofMarkedJson source (.object fields) = .composite declared declaration sample := by
  refine ofMarkedJson_of_node (isMarker_of_kind? named) ?_
  rw [node_of_both named generates, given, composite, described, read]
  rfl

/-- A marker is refused if its bounds can not be bounds of a type. -/
theorem ofMarkedJson_of_refused_rule {fault : MarkerFault}
    (named : kind? fields matcherKey = some "type")
    (generates : kind? fields generatorKey = some kind)
    (refused : rule "type" fields = .error fault) :
    Node.ofMarkedJson source (.object fields) = fault.node := by
  refine ofMarkedJson_of_fault (isMarker_of_kind? named) ?_
  rw [node_of_both named generates, composite, refused]
  rfl

theorem ofMarkedJson_of_refused_declaration {declared : Rule} {fault : MarkerFault}
    (named : kind? fields matcherKey = some "type")
    (generates : kind? fields generatorKey = some kind)
    (described : rule "type" fields = .ok declared)
    (refused : Marker.declaration kind fields = .error fault) :
    Node.ofMarkedJson source (.object fields) = fault.node := by
  refine ofMarkedJson_of_fault (isMarker_of_kind? named) ?_
  rw [node_of_both named generates, composite, described, refused]
  rfl

theorem rule_type_of_absent (noMin : Keyed.find? "min" fields = none)
    (noMax : Keyed.find? "max" fields = none) : rule "type" fields = .ok .sameType := by
  have unbounded {key : String} (absent : Keyed.find? key fields = none) :
      optionalCount "type" fields key = .ok none :=
    optionalCount_of_givesBound (Or.inl absent)
  rw [rule, unbounded noMin, unbounded noMax]
  rfl

theorem optionalText_of_find? {key : String} {text : Option String}
    (given : Keyed.find? key fields = text.map .string) :
    optionalText kind fields key = .ok text := by
  cases text with
  | none => rw [optionalText, given]; rfl
  | some text => rw [optionalText, given]; rfl

theorem cappedCount_digits {digits largest : UInt8} (fits : digits ≤ largest) :
    cappedCount (UInt64.ofNat digits.toNat) largest = digits := by
  have small : digits.toNat < UInt64.size := Nat.lt_trans digits.toNat_lt (by decide)
  rw [cappedCount, UInt64.toNat_ofNat_of_lt' small, Nat.min_eq_left (UInt8.le_iff_toNat_le.mp fits),
    UInt8.ofNat_toNat]

end Marker

/-! ### Reading what a generator writes -/

namespace Generator.IsMarkedBy

open Marker

variable {fields : MarkerFields} {sample : Json} {declaration : Generator}

theorem kind?_matcherKey (written : declaration.IsMarkedBy sample fields) :
    kind? fields matcherKey = some "type" :=
  kind?_eq_some.mpr ((written matcherKey).trans rfl)

theorem kind?_generatorKey (written : declaration.IsMarkedBy sample fields) :
    kind? fields generatorKey = some declaration.kind :=
  kind?_eq_some.mpr ((written generatorKey).trans rfl)

theorem declaration_integer {min max : Int64}
    (written : (Generator.randomInt min max).IsMarkedBy sample fields) :
    Marker.declaration "RandomInt" fields = .ok (.randomInt min max) := by
  have integer {key : String} {number : Int64}
      (found : Keyed.find? key fields = some (.ofInt number.toInt)) :
      optionalInteger "RandomInt" fields key = .ok (some number) := by
    have read : (Json.ofInt number.toInt).toInt64? = some number :=
      Numeral.toInt64?_ofInt number
    rw [optionalInteger, found]
    simp only [Json.ofInt] at read ⊢
    rw [read]
  rw [Marker.declaration, integer ((written "min").trans rfl), integer ((written "max").trans rfl)]
  rfl

/-- Long texts are refused. -/
theorem declaration_string {size : UInt64}
    (written : (Generator.randomString size).IsMarkedBy sample fields) :
    Marker.declaration "RandomString" fields =
      if maxStringSize < size then .error (unusable "RandomString" (sizeProblem size))
      else .ok (.randomString size) := by
  have sizeGiven : GivesBound fields "size" (some size) := by
    rw [GivesBound, written "size"]
    exact Json.toUInt64?_ofNat_toNat size
  rw [Marker.declaration, optionalCount_of_givesBound sizeGiven]
  rfl

theorem declaration_decimal {digits : UInt8}
    (written : (Generator.randomDecimal digits).IsMarkedBy sample fields)
    (usable : (Generator.randomDecimal digits).IsUsable) :
    Marker.declaration "RandomDecimal" fields = .ok (.randomDecimal digits) := by
  have digitsGiven : GivesBound fields "digits" (some (.ofNat digits.toNat)) := by
    rw [GivesBound, written "digits"]
    exact Json.toUInt64?_ofNat_digits digits
  have positive : UInt64.ofNat digits.toNat ≠ 0 := by
    intro zero
    have least : 1 ≤ digits.toNat := UInt8.le_iff_toNat_le.mp usable.1
    have small : digits.toNat < UInt64.size := Nat.lt_trans digits.toNat_lt (by decide)
    have none : digits.toNat = 0 :=
      (UInt64.toNat_ofNat_of_lt' small).symm.trans (congrArg UInt64.toNat zero)
    omega
  have capped : cappedCount (UInt64.ofNat digits.toNat) maxDecimalDigits = digits :=
    cappedCount_digits usable.2
  rw [Marker.declaration, optionalCount_of_givesBound digitsGiven]
  refine (if_neg positive).trans ?_
  exact congrArg (fun count => Except.ok (Generator.randomDecimal count)) capped

theorem declaration_hexadecimal {digits : UInt8}
    (written : (Generator.randomHexadecimal digits).IsMarkedBy sample fields) :
    Marker.declaration "RandomHexadecimal" fields = .ok (.randomHexadecimal digits) := by
  have digitsGiven : GivesBound fields "digits" (some (.ofNat digits.toNat)) := by
    rw [GivesBound, written "digits"]
    exact Json.toUInt64?_ofNat_digits digits
  have capped : cappedCount (UInt64.ofNat digits.toNat) 255 = digits :=
    cappedCount_digits (UInt8.le_iff_toNat_le.mpr (Nat.le_of_lt_succ digits.toNat_lt))
  rw [Marker.declaration, optionalCount_of_givesBound digitsGiven]
  exact congrArg (fun count => Except.ok (Generator.randomHexadecimal count)) capped

theorem declaration_calendar {part : CalendarPart} {format expression : Option String}
    (written : (Generator.calendar part format expression).IsMarkedBy sample fields)
    (usable : (Generator.calendar part format expression).IsUsable) :
    calendarDeclaration part fields = .ok (.calendar part format expression) := by
  have formatGiven : Keyed.find? "format" fields = format.map .string := by
    rw [written "format"]
    cases format <;> cases expression <;> rfl
  have expressionGiven : Keyed.find? "expression" fields = expression.map .string := by
    rw [written "expression"]
    cases format <;> cases expression <;> rfl
  rw [calendarDeclaration, optionalText_of_find? formatGiven, optionalText_of_find? expressionGiven]
  cases format with
  | none => rfl
  | some format =>
    obtain ⟨pattern, read⟩ : IsDateFormat format := usable format rfl
    simp only [bind, Except.bind, checkFormat, read]
    rfl

theorem declaration_uuid {format : Option UuidFormat}
    (written : (Generator.uuid format).IsMarkedBy sample fields) :
    Marker.declaration "Uuid" fields = .ok (.uuid format) := by
  have formatGiven :
      Keyed.find? "format" fields = (format.map UuidFormat.name).map .string := by
    rw [written "format"]
    cases format <;> rfl
  rw [Marker.declaration, uuidDeclaration, optionalText_of_find? formatGiven]
  cases format with
  | none => rfl
  | some format => cases format <;> rfl

/-- A usable generator is read from the parameters that it writes. -/
theorem declaration_eq (written : declaration.IsMarkedBy sample fields)
    (usable : declaration.IsUsable) :
    Marker.declaration declaration.kind fields = .ok declaration := by
  have text {key text : String}
      (own : Keyed.find? key (declaration.markerMembers sample) = some (.string text)) :
      requiredText declaration.kind fields key = .ok text :=
    requiredText_of_find? ((written key).trans own)
  cases declaration with
  | randomBoolean => rfl
  | randomInt min max => exact declaration_integer written
  | randomDecimal digits => exact declaration_decimal written usable
  | randomHexadecimal digits => exact declaration_hexadecimal written
  | randomString size =>
    exact (declaration_string written).trans (if_neg (UInt64.not_lt.mpr usable))
  | regex pattern =>
    change (requiredText (Generator.regex pattern).kind fields "regex" >>= _) = _
    rw [text rfl]
    rfl
  | calendar part format expression =>
    have read := declaration_calendar written usable
    cases part with
    | date => exact read
    | time => exact read
    | dateTime => exact read
  | uuid format => exact declaration_uuid written
  | providerState expression =>
    change (requiredText (Generator.providerState expression).kind fields "expression" >>= _) = _
    rw [text rfl]
    rfl
  | mockServerUrl url pattern =>
    change (requiredText (Generator.mockServerUrl url pattern).kind fields "example" >>= _) = _
    rw [text rfl]
    change (requiredText (Generator.mockServerUrl url pattern).kind fields "regex" >>= _) = _
    rw [text rfl]
    rfl

end Generator.IsMarkedBy

/-! ### Calls that are accepted -/

theorem Node.not_of_accepted {condition : Prop} [Decidable condition] {refused node : Node}
    (accepted : ¬ (if condition then refused else node).IsInvalid) (refusal : refused.IsInvalid) :
    ¬ condition := by
  intro holds
  rw [if_pos holds] at accepted
  exact accepted refusal

theorem Node.of_accepted {condition : Prop} [Decidable condition] {refused node : Node}
    (accepted : ¬ (if condition then node else refused).IsInvalid) (refusal : refused.IsInvalid) :
    condition := by
  by_contra fails
  rw [if_neg fails] at accepted
  exact accepted refusal

namespace Composite

variable {source : ExampleSource} {fields : MarkerFields} {tree : Node} {call : Call}

/-- Unless its arguments are refused, a constructor gives a value of the type of its example with
the generator. -/
theorem Call.node_eq (written : call.declaration.IsMarkedBy call.sample fields)
    (given : Marker.tree? source fields "value" = some tree)
    (accepted : ¬ (call.node tree).IsInvalid) : call.node tree = like call.declaration tree := by
  have found : Keyed.find? "value" fields = some call.sample :=
    (written "value").trans (Generator.find?_value_markerMembers _ _)
  have text {sample : String} (same : call.sample = .string sample) : tree = .string sample := by
    rw [same] at found
    have read : Marker.tree? source fields "value" = some (.string sample) :=
      Marker.tree?_of_find? found fun inner => by rw [Node.ofMarkedJson]
    exact Option.some.inj (given.symm.trans read)
  cases call with
  | ofProviderState parameter sample => rfl
  | string sample size =>
    rw [text rfl]
    rfl
  | integer sample min max =>
    have number : (Keyed.find? "value" fields).bind Json.toInt64? = some sample := by
      rw [found]
      exact Numeral.toInt64?_ofInt sample
    have same : tree = .integer sample :=
      Option.some.inj (given.symm.trans (Marker.tree?_integer number))
    have fits : ¬ max < min := Node.not_of_accepted accepted trivial
    rw [same]
    exact if_neg fits
  | decimal sample digits => rfl
  | uuid sample format =>
    rw [text rfl]
    exact if_pos (Node.of_accepted accepted trivial)
  | hexadecimal sample digits =>
    rw [text rfl]
    cases digits with
    | some digits => rfl
    | none => exact if_pos (Node.of_accepted accepted trivial)
  | calendar part sample format expression =>
    obtain ⟨pattern, read, same⟩ := Matcher.withFormat_of_accepted accepted
    rw [text rfl]
    exact same
  | mockServerUrl sample pattern =>
    rw [text rfl]
    rfl

/-- Only the size of a random text is not checked. -/
theorem Call.isUsable (accepted : ¬ (call.node tree).IsInvalid) :
    call.declaration.IsUsable ∨ ∃ size, call.declaration = .randomString size := by
  cases call with
  | string sample size => exact Or.inr ⟨_, rfl⟩
  | integer sample min max =>
    exact Or.inl (Int64.not_lt.mp (Node.not_of_accepted accepted trivial))
  | decimal sample digits =>
    -- The digits are those that the constructor records around any tree.
    have source : ExampleSource := ⟨fun _ => 0, default⟩
    have made : Makes source [.null] (Composite.decimal .null digits) := .decimal .null digits
    have usable : (Composite.decimal .null digits).AllUsable :=
      made.allUsable (List.forall_mem_singleton.mpr (Node.allUsable_scalar .null))
    exact Or.inl (allUsable_like.mp usable).1
  | calendar part sample format expression =>
    obtain ⟨pattern, read, _⟩ := Matcher.withFormat_of_accepted accepted
    refine Or.inl ?_
    intro text same
    exact Option.some.inj same ▸ ⟨pattern, read⟩
  | ofProviderState | uuid | hexadecimal | mockServerUrl => exact Or.inl trivial

/-! ### What the marker of a call stands for -/

open Marker

/-- Where the parameters are not taken for others, the marker and the constructor give the same
tree. -/
theorem ofMarkedJson_of_readsApart {declaration : Generator} {sample : Json}
    (written : declaration.IsMarkedBy sample fields)
    (given : tree? source fields "value" = some tree) (usable : declaration.IsUsable)
    (apart : declaration.ReadsApart) :
    Node.ofMarkedJson source (.object fields) = like declaration tree := by
  have unbounded {key : String} (bound : key = "min" ∨ key = "max") :
      Keyed.find? key fields = none := by
    rw [written key]
    rcases bound with rfl | rfl
    all_goals cases declaration with
      | randomInt => exact apart.elim
      | calendar part format expression => cases format <;> cases expression <;> rfl
      | uuid format => cases format <;> rfl
      | _ => rfl
  exact ofMarkedJson_of_both written.kind?_matcherKey written.kind?_generatorKey given
    (rule_type_of_absent (unbounded (Or.inl rfl)) (unbounded (Or.inr rfl)))
    (written.declaration_eq usable)

/-- The bounds of random integers are taken for bounds of the type as well, which are counts. -/
theorem ofMarkedJson_integer {sample : Json} {min max : Int64}
    (written : (Generator.randomInt min max).IsMarkedBy sample fields)
    (given : tree? source fields "value" = some tree) (fits : min ≤ max) :
    Node.ofMarkedJson source (.object fields) =
      if min < 0 then .invalidParameter "type" "'min' must be a non-negative integer"
      else
        .composite (.type (some (.ofNat min.toInt.natAbs)) (some (.ofNat max.toInt.natAbs)))
          (.randomInt min max) tree := by
  have minGiven : Keyed.find? "min" fields = some (.ofInt min.toInt) := (written "min").trans rfl
  have maxGiven : Keyed.find? "max" fields = some (.ofInt max.toInt) := (written "max").trans rfl
  split
  · rename_i negative
    have noCount : (Json.ofInt min.toInt).toUInt64? = none := Numeral.toUInt64?_of_neg negative
    have refused : rule "type" fields =
        .error (unusable "type" "'min' must be a non-negative integer") := by
      rw [rule, optionalCount, minGiven]
      simp only [Json.ofInt] at noCount ⊢
      rw [noCount]
      rfl
    exact ofMarkedJson_of_refused_rule written.kind?_matcherKey written.kind?_generatorKey refused
  · rename_i positive
    have least : 0 ≤ min := Int64.not_lt.mp positive
    have minBound : GivesBound fields "min" (some (.ofNat min.toInt.natAbs)) := by
      rw [GivesBound, minGiven]
      exact Numeral.toUInt64?_of_nonneg least
    have maxBound : GivesBound fields "max" (some (.ofNat max.toInt.natAbs)) := by
      rw [GivesBound, maxGiven]
      exact Numeral.toUInt64?_of_nonneg (Int64.le_trans least fits)
    have bounded : rule "type" fields =
        .ok (.type (some (.ofNat min.toInt.natAbs)) (some (.ofNat max.toInt.natAbs))) := by
      rw [rule, optionalCount_of_givesBound minBound, optionalCount_of_givesBound maxBound]
      rfl
    exact ofMarkedJson_of_both written.kind?_matcherKey written.kind?_generatorKey given bounded
      written.declaration_integer

theorem ofMarkedJson_of_long {sample : Json} {size : UInt64}
    (written : (Generator.randomString size).IsMarkedBy sample fields)
    (long : Generator.maxStringSize < size) :
    Node.ofMarkedJson source (.object fields) =
      .invalidParameter "RandomString" (sizeProblem size) :=
  ofMarkedJson_of_refused_declaration written.kind?_matcherKey written.kind?_generatorKey
    (rule_type_of_absent ((written "min").trans rfl) ((written "max").trans rfl))
    (written.declaration_string.trans (if_pos long))

end Composite

/-! ### Compiled calls -/

namespace Node

variable {limit depth : Nat} {element : Element} {path : Path} {repeated : Bool}

/-- A rule that any sample satisfies can stand in place of the rule of a composite: nothing but the
rules changes. -/
theorem compileAt_composite_other {rule other : Rule} {declaration : Generator} {sample : Node}
    {compiled : Compiled} (unchecked : other.check sample path = .ok ())
    (success : compileAt limit element path repeated depth (.composite rule declaration sample) =
      .ok compiled) :
    ∃ others, compileAt limit element path repeated depth (.composite other declaration sample) =
        .ok others ∧ others.value = compiled.value ∧ others.generators = compiled.generators := by
  have within := depth_le_of_compileAt success
  rw [compileAt_composite within] at success ⊢
  simp only [bind_eq_ok] at success ⊢
  obtain ⟨_, unruled, _, _, _, fits, inner, compiledInner, generated⟩ := success
  let ruled (rule : Rule) : Compiled :=
    if element = .path then inner else inner.withRules path ⟨[rule], none⟩
  have sameValue (rule : Rule) : (ruled rule).value = inner.value := by
    simp only [ruled]
    split <;> rfl
  have sameGenerators (rule : Rule) : (ruled rule).generators = inner.generators := by
    simp only [ruled]
    split <;> rfl
  rw [Compiled.withGenerator_eq, sameGenerators] at generated
  by_cases taken : path.text ∈ Keyed.keys inner.generators
  · rw [if_pos taken] at generated
    cases generated
  · rw [if_neg taken] at generated
    obtain rfl := Except.ok.inj generated
    refine ⟨_, ⟨(), unruled, (), unchecked, (), fits, inner, compiledInner,
      (Compiled.withGenerator_eq _ _ _ _).trans (if_neg ?_)⟩, ?_, ?_⟩
    · rw [sameGenerators]
      exact taken
    · exact (sameValue other).trans (sameValue rule).symm
    · exact congrArg (·.insert path.text declaration) (sameGenerators other)

theorem not_compileAt_invalidParameter {description problem : String} {compiled : Compiled} :
    compileAt limit element path repeated depth (invalidParameter description problem) ≠
      .ok compiled := by
  intro success
  have within := depth_le_of_compileAt success
  rw [invalidParameter, compileAt_invalid within] at success
  cases success

section Mixed

variable {source : ExampleSource} {call : Composite.Call} {fields : MarkerFields} {tree : Node}

/-- The bounds of a type beside random integers or a random text are written in the contract, and
without bounds there is none. -/
theorem encode_type_of_not_readsApart (accepted : ¬ (call.node tree).IsInvalid)
    (form : call.node tree = Composite.like call.declaration tree)
    (mixed : ¬ call.declaration.ReadsApart) :
    ∃ value, ∀ min max, (composite (.type min max) call.declaration tree).encode .body 1 =
      .ok ⟨.body, value, some (.byPath [("$", ⟨[.type min max], none⟩)]),
        some (.byPath [("$", call.declaration)])⟩ := by
  cases call with
  | string sample size =>
    obtain rfl : Node.string sample = tree := (composite.inj form).2.2
    exact ⟨_, fun _ _ => rfl⟩
  | integer value min max =>
    have plain : Composite.integer value min max =
        Composite.like (.randomInt min max) (.integer value) :=
      if_neg (not_of_accepted accepted trivial)
    obtain rfl : Node.integer value = tree := (composite.inj (plain.symm.trans form)).2.2
    exact ⟨_, fun _ _ => rfl⟩
  | _ => exact absurd trivial mixed

/-- A marker with a parameter that is taken for another is refused, or it is a type with bounds. -/
theorem ofMarkedJson_of_not_readsApart (written : call.declaration.IsMarkedBy call.sample fields)
    (given : Marker.tree? source fields "value" = some tree)
    (accepted : ¬ (call.node tree).IsInvalid) (mixed : ¬ call.declaration.ReadsApart) :
    (∃ description problem,
        ofMarkedJson source (.object fields) = invalidParameter description problem) ∨
      ∃ min max, ofMarkedJson source (.object fields) =
        .composite (.type (some min) (some max)) call.declaration tree := by
  cases call with
  | string sample size =>
    exact Or.inl ⟨_, _, Composite.ofMarkedJson_of_long written (UInt64.not_le.mp mixed)⟩
  | integer value min max =>
    have fits : min ≤ max := Int64.not_lt.mp (not_of_accepted accepted trivial)
    have read := Composite.ofMarkedJson_integer written given fits
    by_cases negative : min < 0
    · exact Or.inl ⟨_, _, read.trans (if_pos negative)⟩
    · exact Or.inr ⟨_, _, read.trans (if_neg negative)⟩
  | _ => exact absurd trivial mixed

end Mixed

/-- A marker for a type with a generator is encoded like the tree of the constructor that it is
written for, for every element, unless it is for random integers or for a text that is longer than
markers allow. Wherever it lies, nothing but the rules can differ if it is compiled at all. -/
theorem encode_marker_composite (source : ExampleSource) (call : Composite.Call)
    (fields : MarkerFields) (tree : Node)
    (written : call.declaration.IsMarkedBy call.sample fields)
    (given : Marker.tree? source fields "value" = some tree)
    (accepted : ¬ (call.node tree).IsInvalid) :
    let marker := ofMarkedJson source (.object fields)
    let native := call.node tree
    ((∀ element maxDepth, marker.encode element maxDepth = native.encode element maxDepth) ↔
        call.declaration.ReadsApart) ∧
      ∀ limit element path repeated depth compiled,
        compileAt limit element path repeated depth marker = .ok compiled →
          ∃ others, compileAt limit element path repeated depth native = .ok others ∧
            others.value = compiled.value ∧ others.generators = compiled.generators := by
  intro marker native
  have form : native = Composite.like call.declaration tree := call.node_eq written given accepted
  by_cases apart : call.declaration.ReadsApart
  · have usable : call.declaration.IsUsable := by
      rcases call.isUsable accepted with usable | ⟨size, named⟩
      · exact usable
      · rw [named] at apart ⊢
        exact apart
    have same : marker = native :=
      (Composite.ofMarkedJson_of_readsApart written given usable apart).trans form.symm
    rw [same]
    exact ⟨iff_of_true (fun _ _ => rfl) apart, fun limit element path repeated depth compiled
      success => ⟨compiled, success, rfl, rfl⟩⟩
  · obtain ⟨value, encodes⟩ := encode_type_of_not_readsApart accepted form apart
    rw [form]
    have read : (∃ description problem, marker = invalidParameter description problem) ∨
        ∃ min max, marker = .composite (.type (some min) (some max)) call.declaration tree :=
      ofMarkedJson_of_not_readsApart written given accepted apart
    rcases read with ⟨description, problem, read⟩ | ⟨min, max, read⟩
    · have refused : (invalidParameter description problem).encode .body 1 =
          .error ⟨.invalidParameter problem, description, .body⟩ := rfl
      rw [read]
      refine ⟨iff_of_false (fun same => ?_) apart, fun limit element path repeated depth compiled
        success => absurd success not_compileAt_invalidParameter⟩
      exact nomatch (refused.symm.trans (same .body 1)).trans (encodes none none)
    · have bounded := encodes (some min) (some max)
      rw [read]
      refine ⟨iff_of_false (fun same => ?_) apart, fun limit element path repeated depth compiled
        success => compileAt_composite_other rfl success⟩
      exact nomatch (bounded.symm.trans (same .body 1)).trans (encodes none none)

/-- A day that an expression stands for, with an example and its format. -/
theorem encode_marker_composite_of_date :
    let source : ExampleSource := ⟨fun _ => 0, default⟩
    let call := Composite.Call.calendar .date "2024-02-29" "yyyy-MM-dd" (some "tomorrow")
    let fields := [("expression", Json.string "tomorrow"), ("format", .string "yyyy-MM-dd"),
      ("pact:generator:type", .string "Date"), ("pact:matcher:type", .string "type"),
      ("value", .string "2024-02-29")]
    call.declaration.IsMarkedBy call.sample fields ∧
      Marker.tree? source fields "value" = some (string "2024-02-29") ∧
        ¬ (call.node (string "2024-02-29")).IsInvalid ∧
          ∀ element maxDepth, (ofMarkedJson source (.object fields)).encode element maxDepth =
            (Composite.calendar .date "2024-02-29" "yyyy-MM-dd" (some "tomorrow")).encode element
              maxDepth := by
  intro source call fields
  have written : call.declaration.IsMarkedBy call.sample fields := by
    intro key
    let front := [(Marker.matcherKey, Json.string "type"), (Marker.generatorKey, .string "Date"),
      ("format", .string "yyyy-MM-dd"), ("expression", .string "tomorrow")]
    have reversed : Keyed.find? key (front.reverse ++ [("value", call.sample)]) =
        Keyed.find? key (front ++ [("value", call.sample)]) := by
      rw [Keyed.find?_append, Keyed.find?_append, Keyed.find?_reverse (by decide)]
    exact reversed
  have given : Marker.tree? source fields "value" = some (string "2024-02-29") := rfl
  have accepted : ¬ (call.node (string "2024-02-29")).IsInvalid := not_false
  exact ⟨written, given, accepted,
    (encode_marker_composite source call fields _ written given accepted).1.mpr trivial⟩

/-- The bounds of a marker for random integers are recorded for its type as well, or refused if
they are negative; the constructor records a type without bounds. A marker for a long random text
is refused, the constructor takes it. -/
theorem parameters_taken_for_others :
    let source : ExampleSource := ⟨fun _ => 0, default⟩
    let counted (min max : Int64) :=
      Json.object ((Generator.randomInt min max).markerMembers (.ofInt 5))
    let long := Json.object ((Generator.randomString 5000).markerMembers (.string "abc"))
    ((ofMarkedJson source (counted 1 9)).encode .body 1 =
        .ok ⟨.body, .ofInt 5, some (.byPath [("$", ⟨[.type (some 1) (some 9)], none⟩)]),
          some (.byPath [("$", .randomInt 1 9)])⟩ ∧
      (Composite.integer 5 1 9).encode .body 1 =
        .ok ⟨.body, .ofInt 5, some (.byPath [("$", ⟨[.sameType], none⟩)]),
          some (.byPath [("$", .randomInt 1 9)])⟩) ∧
    ((ofMarkedJson source (counted (-9) 9)).encode .body 1 =
        .error ⟨.invalidParameter "'min' must be a non-negative integer", "type", .body⟩ ∧
      (Composite.integer 5 (-9) 9).encode .body 1 =
        .ok ⟨.body, .ofInt 5, some (.byPath [("$", ⟨[.sameType], none⟩)]),
          some (.byPath [("$", .randomInt (-9) 9)])⟩) ∧
    ((ofMarkedJson source long).encode .body 1 =
        .error ⟨.invalidParameter (sizeProblem 5000), "RandomString", .body⟩ ∧
      (Composite.string "abc" (some 5000)).encode .body 1 =
        .ok ⟨.body, .string "abc", some (.byPath [("$", ⟨[.sameType], none⟩)]),
          some (.byPath [("$", .randomString 5000)])⟩) :=
  ⟨⟨rfl, rfl⟩, ⟨rfl, rfl⟩, ⟨rfl, rfl⟩⟩

end Node

end ConsumerContract
