/-
This file says which declarations can be used when a contract is verified: bounds
that do not exclude every value, counts within their limits, formats that can be
read, and lists of codes with a code in them. Declarations are nested, since the
variants of an array-contains rule have rules and generators of their own. If every
node of a tree makes usable declarations, whatever is compiled from the tree has
usable declarations at every level.
-/

import ConsumerContract.Proofs.Variants
import ConsumerContract.Proofs.Markers

namespace ConsumerContract

/-! ### Usable declarations -/

/-- The text can be read as a pattern of dates and times. -/
def IsDateFormat (format : String) : Prop :=
  ∃ pattern, DatePattern.ofText format = .ok pattern

/-- A value can be generated. -/
def Generator.IsUsable : Generator → Prop
  | randomInt min max => min ≤ max
  | randomDecimal digits => 1 ≤ digits ∧ digits ≤ 9
  | randomString size => size ≤ maxStringSize
  | calendar _ format _ => ∀ text ∈ format, IsDateFormat text
  | _ => True

mutual

/-- The rule can hold of a value, and the declarations of its variants are usable. -/
def Rule.IsUsable : Rule → Prop
  | .type min max => BoundsFit min max
  | .timestamp format | .date format | .time format => IsDateFormat format
  | .statusCode (.codes codes) => codes ≠ []
  | .arrayContains variants => Rule.VariantsUsable variants
  | _ => True

/-- Each variant has usable declarations. -/
def Rule.VariantsUsable : List Variant → Prop
  | [] => True
  | variant :: rest => variant.IsUsable ∧ Rule.VariantsUsable rest

/-- The rules and the generators of the variant are usable. -/
def Variant.IsUsable : Variant → Prop
  | ⟨_, rules, generators⟩ =>
    Rule.RuleSetsUsable rules ∧ ∀ entry ∈ generators, entry.2.IsUsable

/-- The rules at each path are usable. -/
def Rule.RuleSetsUsable : List (String × RuleSet) → Prop
  | [] => True
  | (_, ruleSet) :: rest => ruleSet.IsUsable ∧ Rule.RuleSetsUsable rest

/-- Each rule of the set is usable. -/
def RuleSet.IsUsable : RuleSet → Prop
  | ⟨matchers, _⟩ => Rule.RulesUsable matchers

/-- Each rule is usable. -/
def Rule.RulesUsable : List Rule → Prop
  | [] => True
  | rule :: rest => rule.IsUsable ∧ Rule.RulesUsable rest

end

/-- All rules and generators of an element are usable, those of variants included. -/
def Declared.IsUsable (declared : Declared) : Prop :=
  (∀ entry ∈ declared.rules, entry.2.IsUsable) ∧ ∀ entry ∈ declared.generators, entry.2.IsUsable

namespace Rule

theorem rulesUsable_iff {rules : List Rule} :
    RulesUsable rules ↔ ∀ rule ∈ rules, rule.IsUsable := by
  induction rules with
  | nil => exact iff_of_true trivial nofun
  | cons rule rest inductionHypothesis =>
    rw [RulesUsable, inductionHypothesis, List.forall_mem_cons]

theorem ruleSetsUsable_iff {ruleSets : List (String × RuleSet)} :
    RuleSetsUsable ruleSets ↔ ∀ entry ∈ ruleSets, entry.2.IsUsable := by
  induction ruleSets with
  | nil => exact iff_of_true trivial nofun
  | cons entry rest inductionHypothesis =>
    rw [RuleSetsUsable, inductionHypothesis, List.forall_mem_cons]

theorem variantsUsable_iff {variants : List Variant} :
    VariantsUsable variants ↔
      ∀ variant ∈ variants, (⟨variant.rules, variant.generators⟩ : Declared).IsUsable := by
  induction variants with
  | nil => exact iff_of_true trivial nofun
  | cons variant rest inductionHypothesis =>
    obtain ⟨index, rules, generators⟩ := variant
    rw [VariantsUsable, inductionHypothesis, List.forall_mem_cons, Variant.IsUsable,
      ruleSetsUsable_iff]
    exact Iff.rfl

end Rule

/-! ### Trees of usable declarations -/

/-- A declaration of one of the two sorts is usable. -/
def Entries.Declaration.IsUsable : Entries.Declaration → Prop
  | .rules ruleSet => ruleSet.IsUsable
  | .generator own => own.IsUsable

namespace Node

/-- What the node itself was given to declare is usable. -/
def DeclaresUsable : Node → Prop
  | matcher rules _ _ => ∀ rule ∈ rules, rule.IsUsable
  | repetition _ min max => BoundsFit min max
  | generator declaration _ => declaration.IsUsable
  | composite rule declaration _ => rule.IsUsable ∧ declaration.IsUsable
  | _ => True

/-- Every node of the tree declares usable rules and generators. -/
def AllUsable (node : Node) : Prop :=
  ∀ part, node.Contains part → part.DeclaresUsable

theorem AllUsable.child {node child : Node} (usable : node.AllUsable)
    (member : child ∈ node.children) : child.AllUsable :=
  fun part inside => usable part (.deeper member inside)

theorem allUsable_iff {node : Node} :
    node.AllUsable ↔ node.DeclaresUsable ∧ ∀ child ∈ node.children, child.AllUsable :=
  forall_contains

/-- What is recorded for a tree of usable declarations is usable. -/
def RecordsUsable (node : Node) : Prop :=
  ∀ {element : Element} {repeated : Bool} {steps : List Step}
    {declaration : Entries.Declaration},
    (node.entries element repeated).Records steps declaration → declaration.IsUsable

theorem declared_usable {node : Node} (records : node.RecordsUsable) (element : Element)
    (path : Path) (repeated : Bool) :
    ((node.entries element repeated).declared path).IsUsable := by
  constructor
  · rintro ⟨text, found⟩ member
    obtain ⟨⟨steps, ruleSet⟩, recorded, same⟩ := List.mem_map.mp (Keyed.mem_of_mem_ofList member)
    obtain ⟨rfl, rfl⟩ := Prod.mk.inj same
    exact @records element repeated steps (.rules ruleSet) recorded
  · rintro ⟨text, found⟩ member
    obtain ⟨⟨steps, generator⟩, recorded, same⟩ :=
      List.mem_map.mp (Keyed.mem_of_mem_ofList member)
    obtain ⟨rfl, rfl⟩ := Prod.mk.inj same
    exact @records element repeated steps (.generator generator) recorded

/-- The rules of an array-contains matcher are usable if those recorded for each variant are. -/
theorem variantsUsable_declaredVariants {trees : List Node}
    (each : ∀ tree ∈ trees, tree.RecordsUsable) :
    Rule.VariantsUsable (declaredVariants 0 trees) := by
  refine Rule.variantsUsable_iff.mpr fun variant member => ?_
  obtain ⟨offset, tree, found, _, same⟩ := mem_declaredVariants member
  rw [same]
  exact declared_usable (each tree (List.mem_of_getElem? found)) .body .body false

theorem Declares.isUsable {node : Node} {element : Element} {declaration : Entries.Declaration}
    (declares : node.Declares element declaration) (usable : node.DeclaresUsable)
    (below : ∀ child ∈ node.children, child.RecordsUsable) : declaration.IsUsable := by
  cases declaration with
  | rules ruleSet =>
    cases node with
    | matcher rules combine sample =>
      obtain rfl := Option.some.inj declares
      exact Rule.rulesUsable_iff.mpr usable
    | repetition collection min max =>
      obtain rfl := Option.some.inj declares
      exact ⟨usable, trivial⟩
    | arrayContains trees =>
      obtain rfl := Option.some.inj declares
      exact ⟨variantsUsable_declaredVariants below, trivial⟩
    | composite rule own sample =>
      obtain ⟨_, same⟩ := Option.ite_none_left_eq_some.mp declares
      obtain rfl := Option.some.inj same
      exact ⟨usable.1, trivial⟩
    | _ => cases declares
  | generator own =>
    cases node with
    | generator declaration sample =>
      obtain rfl := Option.some.inj declares
      exact usable
    | composite rule declaration sample =>
      obtain rfl := Option.some.inj declares
      exact usable.2
    | _ => cases declares

/-- A tree of usable declarations records usable declarations only. -/
theorem AllUsable.recordsUsable {node : Node} (usable : node.AllUsable) : node.RecordsUsable := by
  induction node using childInduction with
  | node node inductionHypothesis =>
    intro element repeated steps declaration recorded
    have below child (member : child ∈ node.children) : child.RecordsUsable :=
      inductionHypothesis child member (usable.child member)
    rcases declaresAt_iff.mp (records_entries.mp recorded) with
      ⟨_, declares⟩ | ⟨front, flag, child, rest, edge, _, inside⟩
    · exact declares.isUsable (usable node (.itself node)) below
    · exact below child edge.mem_children (records_entries.mpr inside)

/-- An element that was encoded from a tree of usable declarations has usable declarations. -/
theorem AllUsable.declared_isUsable {node : Node} (usable : node.AllUsable) {element : Element}
    {maxDepth : Nat} {encoded : EncodedElement}
    (success : node.encode element maxDepth = .ok encoded) : encoded.declared.IsUsable := by
  have compiled := compile_of_encode success
  unfold encode at success
  rw [compiled] at success
  rw [← Except.ok.inj success, EncodedElement.declared]
  simp only [Declarations.entries_ofEntries?]
  exact declared_usable usable.recordsUsable element element.root false

end Node

end ConsumerContract
