/-
This file proves that the declarations of a tree are those of its nodes, each at
the address of the node that makes it. Addresses are shared inside wrappers, so it
is also shown which nodes lie at the address of the tree itself: outside of
repeated sequences these are the tree and the layers inside it.
-/

import ConsumerContract.Proofs.Entries
import ConsumerContract.Proofs.Places

namespace ConsumerContract.Node

open Entries (Declaration)

/-! ### Declarations of one node -/

/-- The rules that the node itself declares. -/
def ownRules? (element : Element) : Node → Option RuleSet
  | matcher rules combine _ => some ⟨rules, combine⟩
  | repetition _ min max => some (repetitionRules min max)
  | arrayContains variants => some ⟨[.arrayContains (declaredVariants 0 variants)], none⟩
  | composite rule _ _ => if element = .path then none else some ⟨[rule], none⟩
  | _ => none

/-- The generator that the node itself declares. -/
def ownGenerator? : Node → Option Generator
  | generator declaration _ | composite _ declaration _ => some declaration
  | _ => none

theorem bearsGenerator_eq (node : Node) : node.bearsGenerator = node.ownGenerator?.isSome := by
  cases node <;> rfl

/-- The node itself makes the declaration. -/
def Declares (element : Element) (node : Node) : Declaration → Prop
  | .rules ruleSet => node.ownRules? element = some ruleSet
  | .generator own => node.ownGenerator? = some own

/-- A node of the tree outside of variants makes the declaration at these steps. -/
def DeclaresAt (element : Element) (repeated : Bool) (node : Node) (steps : List Step)
    (declaration : Declaration) : Prop :=
  ∃ level part, Reaches element repeated node steps level part ∧ part.Declares element declaration

/-- What is declared in a tree is declared by its own node or in a tree just below it. -/
theorem declaresAt_iff {element : Element} {repeated : Bool} {node : Node} {steps : List Step}
    {declaration : Declaration} :
    node.DeclaresAt element repeated steps declaration ↔
      (steps = [] ∧ node.Declares element declaration) ∨
        ∃ front flag child rest, Below element repeated node front flag child ∧
          steps = front ++ rest ∧ child.DeclaresAt element flag rest declaration := by
  constructor
  · rintro ⟨level, part, reached, declares⟩
    cases reached with
    | itself => exact Or.inl ⟨rfl, declares⟩
    | deeper edge inside => exact Or.inr ⟨_, _, _, _, edge, rfl, _, part, inside, declares⟩
  · rintro (⟨rfl, declares⟩ | ⟨front, flag, child, rest, edge, rfl, level, part, inside, declares⟩)
    · exact ⟨0, node, .itself repeated node, declares⟩
    · exact ⟨level + 1, part, .deeper edge inside, declares⟩

/-! ### Declarations of a tree -/

section Entries

variable {element : Element} {repeated : Bool} {steps : List Step} {declaration : Declaration}

theorem records_entriesOfItems {shared : Bool} {position : Nat} {items : List Node} :
    (entriesOfItems element shared position items).Records steps declaration ↔
      ∃ offset item rest, items[offset]? = some item ∧
        steps = (if shared then [] else [.index (position + offset)]) ++ rest ∧
        (item.entries element false).Records rest declaration := by
  induction items generalizing position with
  | nil =>
    refine iff_of_false (Entries.not_records_empty steps declaration) ?_
    rintro ⟨offset, item, rest, found, -⟩
    cases found
  | cons first others inductionHypothesis =>
    have placed : (if shared then first.entries element false
        else (first.entries element false).below (.index position)).Records steps declaration ↔
          ∃ rest, steps = (if shared then [] else [.index position]) ++ rest ∧
            (first.entries element false).Records rest declaration := by
      cases shared with
      | true => exact ⟨fun recorded => ⟨steps, rfl, recorded⟩, fun ⟨rest, same, recorded⟩ =>
          same ▸ recorded⟩
      | false => exact Entries.records_below
    rw [entriesOfItems, Entries.records_append, placed, inductionHypothesis]
    constructor
    · rintro (⟨rest, same, recorded⟩ | ⟨offset, item, rest, found, same, recorded⟩)
      · exact ⟨0, first, rest, rfl, same, recorded⟩
      · refine ⟨offset + 1, item, rest, found, ?_, recorded⟩
        rw [same, Nat.add_right_comm, Nat.add_assoc]
    · rintro ⟨offset, item, rest, found, same, recorded⟩
      cases offset with
      | zero =>
        obtain rfl := Option.some.inj found
        exact Or.inl ⟨rest, same, recorded⟩
      | succ offset =>
        refine Or.inr ⟨offset, item, rest, found, ?_, recorded⟩
        rw [same, Nat.add_right_comm, Nat.add_assoc]

theorem records_entriesOfMembers {members : List (String × Node)} :
    (entriesOfMembers element members).Records steps declaration ↔
      ∃ key member rest, (key, member) ∈ members ∧ steps = .key key :: rest ∧
        (member.entries element false).Records rest declaration := by
  induction members with
  | nil =>
    refine iff_of_false (Entries.not_records_empty steps declaration) ?_
    rintro ⟨key, member, rest, found, -⟩
    exact List.not_mem_nil found
  | cons entry others inductionHypothesis =>
    obtain ⟨key, member⟩ := entry
    rw [entriesOfMembers, Entries.records_append, Entries.records_below, inductionHypothesis]
    constructor
    · rintro (⟨rest, same, recorded⟩ | ⟨other, child, rest, found, same, recorded⟩)
      · exact ⟨key, member, rest, List.mem_cons_self, same, recorded⟩
      · exact ⟨other, child, rest, List.mem_cons_of_mem _ found, same, recorded⟩
    · rintro ⟨other, child, rest, found, same, recorded⟩
      rcases List.mem_cons.mp found with first | found
      · obtain ⟨rfl, rfl⟩ := Prod.mk.inj first
        exact Or.inl ⟨rest, same, recorded⟩
      · exact Or.inr ⟨other, child, rest, found, same, recorded⟩

/-- The tree below a wrapper lies where the wrapper lies. -/
theorem declaresAt_wrapper {node sample : Node} (wrapped : node.sample? = some sample) :
    node.DeclaresAt element repeated steps declaration ↔
      sample.DeclaresAt element false steps declaration ∨
        steps = [] ∧ node.Declares element declaration := by
  rw [declaresAt_iff, or_comm]
  refine or_congr_left ⟨?_, fun inside => ⟨[], false, sample, steps, .sample wrapped, rfl, inside⟩⟩
  rintro ⟨front, flag, child, rest, edge, rfl, inside⟩
  cases edge with
  | sample wrapped' =>
    obtain rfl := Option.some.inj (wrapped.symm.trans wrapped')
    exact inside
  | _ => cases wrapped

theorem declaresAt_leaf {node : Node} (leaf : node.children = [])
    (silent : ¬ node.Declares element declaration) :
    ¬ node.DeclaresAt element repeated steps declaration := by
  rw [declaresAt_iff]
  rintro (⟨-, declares⟩ | ⟨front, flag, child, rest, edge, -⟩)
  · exact silent declares
  · exact absurd (leaf ▸ edge.mem_children) List.not_mem_nil

/-- A declaration is recorded for a tree with the steps down to a node that makes it. -/
theorem records_entries {node : Node} :
    (node.entries element repeated).Records steps declaration ↔
      node.DeclaresAt element repeated steps declaration := by
  induction node generalizing repeated steps with
  | scalar value =>
    refine iff_of_false (Entries.not_records_empty steps declaration) (declaresAt_leaf rfl ?_)
    cases declaration <;> exact fun declares => nomatch declares
  | sequence items each =>
    rw [entries, records_entriesOfItems, declaresAt_iff]
    constructor
    · rintro ⟨offset, item, rest, found, same, recorded⟩
      have member := List.mem_of_getElem? found
      have inside := (each item member).mp recorded
      rw [Nat.zero_add] at same
      cases shared : repeated || element.sharesItems with
      | true =>
        rw [shared, if_pos rfl] at same
        exact Or.inr ⟨[], false, item, rest, .sharedItem shared member, same, inside⟩
      | false =>
        rw [shared, if_neg Bool.false_ne_true] at same
        exact Or.inr ⟨_, false, item, rest, .item shared found, same, inside⟩
    · rintro (⟨-, declares⟩ | ⟨front, flag, child, rest, edge, same, inside⟩)
      · cases declaration <;> cases declares
      · cases edge with
        | sharedItem shared member =>
          obtain ⟨offset, found⟩ := List.getElem?_of_mem member
          refine ⟨offset, child, rest, found, ?_, (each child member).mpr inside⟩
          rw [shared, if_pos rfl, same]
        | item apart found =>
          refine ⟨_, child, rest, found, ?_, (each child (List.mem_of_getElem? found)).mpr inside⟩
          rw [apart, if_neg Bool.false_ne_true, Nat.zero_add, same]
        | sample wrapped => cases wrapped
  | mapping members each =>
    rw [entries, records_entriesOfMembers, declaresAt_iff]
    constructor
    · rintro ⟨key, member, rest, found, same, recorded⟩
      have inside := (each key member found).mp recorded
      exact Or.inr ⟨_, false, member, rest, .member found, same, inside⟩
    · rintro (⟨-, declares⟩ | ⟨front, flag, child, rest, edge, same, inside⟩)
      · cases declaration <;> cases declares
      · cases edge with
        | member found => exact ⟨_, child, rest, found, same, (each _ child found).mpr inside⟩
        | sample wrapped => cases wrapped
  | matcher rules combine sample inductionHypothesis =>
    rw [entries, Entries.records_withRules, declaresAt_wrapper rfl, ← inductionHypothesis]
    refine or_congr_right (and_congr_right fun _ => ?_)
    cases declaration <;> simp [Declares, ownRules?, ownGenerator?, eq_comm]
  | repetition collection min max inductionHypothesis =>
    have own : declaration = .rules (repetitionRules min max) ↔
        (repetition collection min max).Declares element declaration := by
      cases declaration <;> simp [Declares, ownRules?, ownGenerator?, eq_comm]
    rw [entries, Entries.records_withRules, declaresAt_iff, or_comm, own]
    refine or_congr_right ?_
    cases shape : collection.anyPart? with
    | none =>
      refine iff_of_false (Entries.not_records_empty steps declaration) ?_
      rintro ⟨front, flag, child, rest, edge, -⟩
      cases edge with
      | collection shape' => cases shape.symm.trans shape'
      | sample wrapped => cases wrapped
    | some step =>
      simp only [Entries.records_below, inductionHypothesis]
      constructor
      · rintro ⟨rest, same, inside⟩
        exact ⟨_, true, collection, rest, .collection shape, same, inside⟩
      · rintro ⟨front, flag, child, rest, edge, same, inside⟩
        cases edge with
        | collection shape' =>
          obtain rfl := Option.some.inj (shape.symm.trans shape')
          exact ⟨rest, same, inside⟩
        | sample wrapped => cases wrapped
  | arrayContains variants each =>
    rw [entries, Entries.records_withRules, declaresAt_iff, or_comm]
    refine or_congr (and_congr_right fun _ => ?_)
      (iff_of_false (Entries.not_records_empty steps declaration) ?_)
    · cases declaration <;> simp [Declares, ownRules?, ownGenerator?, eq_comm]
    · rintro ⟨front, flag, child, rest, edge, -⟩
      cases edge with
      | sample wrapped => cases wrapped
  | generator own sample inductionHypothesis =>
    rw [entries, Entries.records_withGenerator, declaresAt_wrapper rfl, ← inductionHypothesis]
    refine or_congr_right (and_congr_right fun _ => ?_)
    cases declaration <;> simp [Declares, ownRules?, ownGenerator?, eq_comm]
  | composite rule own sample inductionHypothesis =>
    rw [entries, Entries.records_withGenerator, declaresAt_wrapper rfl, ← inductionHypothesis]
    by_cases bare : element = .path
    · rw [if_pos bare]
      refine or_congr_right (and_congr_right fun _ => ?_)
      cases declaration <;> simp [Declares, ownRules?, ownGenerator?, bare, eq_comm]
    · rw [if_neg bare, Entries.records_withRules, or_assoc, ← and_or_left]
      refine or_congr_right (and_congr_right fun _ => ?_)
      cases declaration <;> simp [Declares, ownRules?, ownGenerator?, bare, eq_comm]
  | invalid description problem =>
    refine iff_of_false (Entries.not_records_empty steps declaration) (declaresAt_leaf rfl ?_)
    cases declaration <;> exact fun declares => nomatch declares

end Entries

/-! ### The address of the tree itself -/

theorem reaches_of_mem_layers {element : Element} {repeated : Bool} {node layer : Node}
    (member : layer ∈ node.layers) : ∃ level, Reaches element repeated node [] level layer := by
  induction node generalizing repeated with
  | matcher rules combine sample inductionHypothesis =>
    rcases List.mem_cons.mp member with rfl | member
    · exact ⟨1, .deeper (.sample rfl) (.itself false _)⟩
    · obtain ⟨level, inside⟩ := inductionHypothesis member
      exact ⟨level + 1, .deeper (.sample rfl) inside⟩
  | generator declaration sample inductionHypothesis =>
    rcases List.mem_cons.mp member with rfl | member
    · exact ⟨1, .deeper (.sample rfl) (.itself false _)⟩
    · obtain ⟨level, inside⟩ := inductionHypothesis member
      exact ⟨level + 1, .deeper (.sample rfl) inside⟩
  | composite rule declaration sample inductionHypothesis =>
    rcases List.mem_cons.mp member with rfl | member
    · exact ⟨1, .deeper (.sample rfl) (.itself false _)⟩
    · obtain ⟨level, inside⟩ := inductionHypothesis member
      exact ⟨level + 1, .deeper (.sample rfl) inside⟩
  | _ => exact absurd member List.not_mem_nil

/-- Unless a sequence is repeated, only its layers lie where a tree of a body lies. -/
theorem mem_layers_of_reaches {node part : Node} {level : Nat}
    (reached : Reaches .body false node [] level part) : part = node ∨ part ∈ node.layers := by
  generalize plain : false = repeated at reached
  generalize here : [] = steps at reached
  induction reached with
  | itself repeated node => exact Or.inl rfl
  | deeper edge inside inductionHypothesis =>
    subst plain
    cases edge with
    | sharedItem shared member => cases shared
    | item apart found => cases here
    | member found => cases here
    | sample wrapped =>
      exact Or.inr (mem_layers.mpr ⟨_, wrapped, inductionHypothesis rfl here⟩)
    | collection shape => cases here

/-- A sample declares a generator at its own address if one of the layers has one. -/
theorem records_root_generator {node sample : Node} (wrapped : node.sample? = some sample) :
    (∃ own, (sample.entries .body false).Records [] (.generator own)) ↔
      ∃ layer ∈ node.layers, layer.bearsGenerator = true := by
  simp only [bearsGenerator_eq, Option.isSome_iff_exists]
  constructor
  · rintro ⟨own, recorded⟩
    obtain ⟨level, part, reached, declares⟩ := records_entries.mp recorded
    exact ⟨part, mem_layers.mpr ⟨sample, wrapped, mem_layers_of_reaches reached⟩, own, declares⟩
  · rintro ⟨layer, member, own, declares⟩
    obtain ⟨inner, same, inside⟩ := mem_layers.mp member
    obtain rfl := Option.some.inj (wrapped.symm.trans same)
    refine ⟨own, records_entries.mpr ?_⟩
    rcases inside with rfl | inside
    · exact ⟨0, layer, .itself false layer, declares⟩
    · obtain ⟨level, reached⟩ := reaches_of_mem_layers inside
      exact ⟨level, layer, reached, declares⟩

end ConsumerContract.Node
