/-
This file holds the vocabulary of trees that statements about encoding use: the
nodes directly below a node, the nodes anywhere in a tree, the layers of wrappers
that lie at one path, and the height. It gives one induction for all of them, in
which a collection may assume the statement of each of its parts. What is said of
all nodes in a tree can be decided by a walk over it.
-/

import ConsumerContract.Node.Basic
import ConsumerContract.Proofs.Keyed

namespace ConsumerContract.Node

/-! ### Induction -/

@[induction_eliminator]
theorem treeInduction {motive : Node → Prop}
    (scalar : ∀ value, motive (.scalar value))
    (sequence : ∀ items, (∀ item ∈ items, motive item) → motive (.sequence items))
    (mapping : ∀ members, (∀ key member, (key, member) ∈ members → motive member) →
      motive (.mapping members))
    (matcher : ∀ rules combine sample, motive sample → motive (.matcher rules combine sample))
    (repetition : ∀ collection min max, motive collection →
      motive (.repetition collection min max))
    (arrayContains : ∀ variants, (∀ variant ∈ variants, motive variant) →
      motive (.arrayContains variants))
    (generator : ∀ declaration sample, motive sample → motive (.generator declaration sample))
    (composite : ∀ rule declaration sample, motive sample →
      motive (.composite rule declaration sample))
    (invalid : ∀ description problem, motive (.invalid description problem))
    (node : Node) : motive node :=
  Node.rec (motive_1 := motive) (motive_2 := fun items => ∀ item ∈ items, motive item)
    (motive_3 := fun members => ∀ key member, (key, member) ∈ members → motive member)
    (motive_4 := fun entry => motive entry.2)
    scalar sequence mapping matcher repetition arrayContains generator composite invalid
    (fun _ member => absurd member List.not_mem_nil)
    (fun _ _ first rest _ member => by
      rcases List.mem_cons.mp member with rfl | member
      · exact first
      · exact rest _ member)
    (fun _ _ member => absurd member List.not_mem_nil)
    (fun _ _ first rest _ _ member => by
      rcases List.mem_cons.mp member with rfl | member
      · exact first
      · exact rest _ _ member)
    (fun _ _ second => second)
    node

/-! ### Parts of a tree -/

/-- The nodes directly below a node. -/
def children : Node → List Node
  | scalar _ | invalid .. => []
  | sequence items => items
  | mapping members => members.map Prod.snd
  | matcher _ _ sample | generator _ sample | composite _ _ sample => [sample]
  | repetition collection _ _ => [collection]
  | arrayContains variants => variants

/-- A node and the nodes of the trees below it, those of variants included. -/
inductive Contains : Node → Node → Prop where
  | itself (node : Node) : Contains node node
  | deeper {node child part : Node} (member : child ∈ node.children)
      (inside : Contains child part) : Contains node part

/-- What holds of a node whenever it holds of the nodes directly below holds of every tree. -/
theorem childInduction {motive : Node → Prop}
    (node : ∀ node, (∀ child ∈ node.children, motive child) → motive node) (tree : Node) :
    motive tree := by
  induction tree with
  | scalar value => exact node _ fun child member => absurd member List.not_mem_nil
  | sequence items each => exact node _ each
  | mapping members each =>
    refine node _ (List.forall_mem_map.mpr fun entry member => ?_)
    exact each entry.1 entry.2 member
  | matcher rules combine sample inductionHypothesis =>
    exact node _ (List.forall_mem_singleton.mpr inductionHypothesis)
  | repetition collection min max inductionHypothesis =>
    exact node _ (List.forall_mem_singleton.mpr inductionHypothesis)
  | arrayContains variants each => exact node _ each
  | generator declaration sample inductionHypothesis =>
    exact node _ (List.forall_mem_singleton.mpr inductionHypothesis)
  | composite rule declaration sample inductionHypothesis =>
    exact node _ (List.forall_mem_singleton.mpr inductionHypothesis)
  | invalid description problem => exact node _ fun child member => absurd member List.not_mem_nil

/-- A property holds all over a tree if it holds of the node itself and all over the trees
below it. -/
theorem forall_contains {property : Node → Prop} {node : Node} :
    (∀ part, node.Contains part → property part) ↔
      property node ∧ ∀ child ∈ node.children, ∀ part, child.Contains part → property part := by
  constructor
  · intro all
    exact ⟨all node (.itself node), fun child member part inside =>
      all part (.deeper member inside)⟩
  · rintro ⟨here, below⟩ part inside
    cases inside with
    | itself => exact here
    | deeper member inside => exact below _ member part inside

mutual

/-- Whether the node and all nodes below it pass a test. -/
def everyPart (test : Node → Bool) (node : Node) : Bool :=
  test node &&
    match node with
    | scalar _ | invalid .. => true
    | sequence items | arrayContains items => everyItem test items
    | mapping members => everyMember test members
    | matcher _ _ sample | generator _ sample | composite _ _ sample => sample.everyPart test
    | repetition collection _ _ => collection.everyPart test

/-- Whether all nodes of all items pass a test. -/
def everyItem (test : Node → Bool) : List Node → Bool
  | [] => true
  | item :: rest => item.everyPart test && everyItem test rest

/-- Whether all nodes of all members pass a test. -/
def everyMember (test : Node → Bool) : List (String × Node) → Bool
  | [] => true
  | (_, member) :: rest => member.everyPart test && everyMember test rest

end

theorem everyItem_eq_true {test : Node → Bool} {items : List Node} :
    everyItem test items = true ↔ ∀ item ∈ items, item.everyPart test = true := by
  induction items with
  | nil => exact iff_of_true rfl nofun
  | cons item rest inductionHypothesis =>
    rw [everyItem, Bool.and_eq_true, inductionHypothesis, List.forall_mem_cons]

theorem everyMember_eq (test : Node → Bool) (members : List (String × Node)) :
    everyMember test members = everyItem test (members.map Prod.snd) := by
  induction members with
  | nil => rfl
  | cons entry rest inductionHypothesis =>
    rw [everyMember, inductionHypothesis, List.map_cons, everyItem]

theorem everyPart_iff {test : Node → Bool} {node : Node} :
    node.everyPart test = true ↔
      test node = true ∧ ∀ child ∈ node.children, child.everyPart test = true := by
  rw [everyPart.eq_def, Bool.and_eq_true]
  refine and_congr_right fun _ => ?_
  cases node with
  | scalar value => exact iff_of_true rfl nofun
  | sequence items => exact everyItem_eq_true
  | mapping members =>
    rw [children, ← everyItem_eq_true, ← everyMember_eq]
  | arrayContains variants => exact everyItem_eq_true
  | invalid description problem => exact iff_of_true rfl nofun
  | _ => rw [children, List.forall_mem_singleton]

theorem everyPart_eq_true {test : Node → Bool} {node : Node} :
    node.everyPart test = true ↔ ∀ part, node.Contains part → test part = true := by
  induction node using childInduction with
  | node node inductionHypothesis =>
    rw [everyPart_iff, forall_contains]
    exact and_congr_right fun _ => forall₂_congr inductionHypothesis

instance decidableForallContains (property : Node → Prop) [DecidablePred property] (node : Node) :
    Decidable (∀ part, node.Contains part → property part) :=
  decidable_of_iff (node.everyPart (fun part => decide (property part)) = true)
    (everyPart_eq_true.trans (by simp only [decide_eq_true_eq]))

/-- The example inside a wrapper that leaves the path as it is. -/
def sample? : Node → Option Node
  | matcher _ _ sample | generator _ sample | composite _ _ sample => some sample
  | _ => none

theorem mem_children_of_sample? {node inner : Node} (wrapped : node.sample? = some inner) :
    inner ∈ node.children := by
  cases node with
  | matcher rules combine sample => exact List.mem_singleton.mpr (Option.some.inj wrapped).symm
  | generator declaration sample => exact List.mem_singleton.mpr (Option.some.inj wrapped).symm
  | composite rule declaration sample =>
    exact List.mem_singleton.mpr (Option.some.inj wrapped).symm
  | _ => cases wrapped

/-- The nodes that lie inside a wrapper at the same path: its sample, the sample of that, and
so on. -/
def layers : Node → List Node
  | matcher _ _ sample | generator _ sample | composite _ _ sample => sample :: sample.layers
  | _ => []

theorem mem_layers {node layer : Node} :
    layer ∈ node.layers ↔
      ∃ sample, node.sample? = some sample ∧ (layer = sample ∨ layer ∈ sample.layers) := by
  cases node <;> simp [layers, sample?]

/-- Whether the node declares a generator of its own. -/
def bearsGenerator : Node → Bool
  | generator .. | composite .. => true
  | _ => false

/-- Every mapping of the tree has its members in key order, so no two of them have one key. -/
def KeysOrdered (node : Node) : Prop :=
  ∀ members, node.Contains (.mapping members) → Keyed.Ordered members

/-- If the node is a mapping, its members are in key order. -/
def HasOrderedMembers : Node → Prop
  | mapping members => Keyed.Ordered members
  | _ => True

instance : DecidablePred HasOrderedMembers
  | mapping members => inferInstanceAs (Decidable (Keyed.Ordered members))
  | scalar _ | sequence _ | matcher .. | repetition .. | arrayContains _ | generator ..
  | composite .. | invalid .. => isTrue trivial

instance (node : Node) : Decidable node.KeysOrdered :=
  decidable_of_iff (∀ part, node.Contains part → part.HasOrderedMembers)
    ⟨fun all members inside => all _ inside, fun ordered part inside => by
      cases part with
      | mapping members => exact ordered members inside
      | _ => trivial⟩

/-- A tree with all mappings in key order, which is how mappings are built. A constructor of nodes
can not ask for this itself, as the order would be that of a list of nodes yet to be declared. -/
structure Ordered where
  node : Node
  ordered : node.KeysOrdered

theorem KeysOrdered.child {node child : Node} (ordered : node.KeysOrdered)
    (member : child ∈ node.children) : child.KeysOrdered :=
  fun members inside => ordered members (.deeper member inside)

theorem keysOrdered_iff {node : Node} :
    node.KeysOrdered ↔
      (∀ members, node = .mapping members → Keyed.Ordered members) ∧
        ∀ child ∈ node.children, child.KeysOrdered := by
  constructor
  · intro ordered
    refine ⟨?_, fun child member => ordered.child member⟩
    rintro members rfl
    exact ordered members (.itself _)
  · rintro ⟨here, below⟩ members inside
    cases inside with
    | itself => exact here members rfl
    | deeper member inside => exact below _ member members inside

theorem KeysOrdered.keys {members : List (String × Node)}
    (ordered : (Node.mapping members).KeysOrdered) : (Keyed.keys members).Nodup :=
  List.Pairwise.imp String.ne_of_lt (ordered members (.itself _))

section KeysOrdered

@[simp]
theorem keysOrdered_scalar (value : Scalar) : (scalar value).KeysOrdered :=
  keysOrdered_iff.mpr ⟨nofun, fun _ member => absurd member List.not_mem_nil⟩

@[simp]
theorem keysOrdered_sequence {items : List Node} :
    (sequence items).KeysOrdered ↔ ∀ item ∈ items, item.KeysOrdered :=
  keysOrdered_iff.trans (and_iff_right nofun)

@[simp]
theorem keysOrdered_arrayContains {variants : List Node} :
    (arrayContains variants).KeysOrdered ↔ ∀ variant ∈ variants, variant.KeysOrdered :=
  keysOrdered_iff.trans (and_iff_right nofun)

@[simp]
theorem keysOrdered_mapping {members : List (String × Node)} :
    (mapping members).KeysOrdered ↔
      Keyed.Ordered members ∧ ∀ entry ∈ members, entry.2.KeysOrdered := by
  rw [keysOrdered_iff, children, List.forall_mem_map]
  refine and_congr_left fun _ => ⟨fun here => here members rfl, fun here other same => ?_⟩
  cases same
  exact here

@[simp]
theorem keysOrdered_repetition {collection : Node} {min max : Option UInt64} :
    (repetition collection min max).KeysOrdered ↔ collection.KeysOrdered := by
  rw [keysOrdered_iff, children, List.forall_mem_singleton]
  exact and_iff_right nofun

@[simp]
theorem keysOrdered_matcher {rules : List Rule} {combine : Option Combination} {sample : Node} :
    (matcher rules combine sample).KeysOrdered ↔ sample.KeysOrdered := by
  rw [keysOrdered_iff, children, List.forall_mem_singleton]
  exact and_iff_right nofun

@[simp]
theorem keysOrdered_generator {declaration : Generator} {sample : Node} :
    (generator declaration sample).KeysOrdered ↔ sample.KeysOrdered := by
  rw [keysOrdered_iff, children, List.forall_mem_singleton]
  exact and_iff_right nofun

@[simp]
theorem keysOrdered_composite {rule : Rule} {declaration : Generator} {sample : Node} :
    (composite rule declaration sample).KeysOrdered ↔ sample.KeysOrdered := by
  rw [keysOrdered_iff, children, List.forall_mem_singleton]
  exact and_iff_right nofun

end KeysOrdered

/-! ### Height -/

mutual

/-- The number of levels below a node. -/
def height : Node → Nat
  | scalar _ | invalid .. => 0
  | sequence items | arrayContains items => levelsOfItems items
  | mapping members => levelsOfMembers members
  | matcher _ _ sample | generator _ sample | composite _ _ sample => sample.height + 1
  | repetition collection _ _ => collection.height + 1

/-- The number of levels that items add below their collection. -/
def levelsOfItems : List Node → Nat
  | [] => 0
  | item :: rest => max (item.height + 1) (levelsOfItems rest)

/-- The number of levels that members add below their mapping. -/
def levelsOfMembers : List (String × Node) → Nat
  | [] => 0
  | (_, member) :: rest => max (member.height + 1) (levelsOfMembers rest)

end

theorem levelsOfItems_le {items : List Node} {bound : Nat} :
    levelsOfItems items ≤ bound ↔ ∀ item ∈ items, item.height < bound := by
  induction items with
  | nil => simp [levelsOfItems]
  | cons item rest inductionHypothesis =>
    rw [levelsOfItems, Nat.max_le, inductionHypothesis, List.forall_mem_cons, Nat.succ_le_iff]

theorem levelsOfMembers_eq (members : List (String × Node)) :
    levelsOfMembers members = levelsOfItems (members.map Prod.snd) := by
  induction members with
  | nil => rfl
  | cons entry rest inductionHypothesis =>
    rw [levelsOfMembers, inductionHypothesis, List.map_cons, levelsOfItems]

/-- A tree fits into a number of levels if each tree below it fits into one less. -/
theorem height_le {node : Node} {bound : Nat} :
    node.height ≤ bound ↔ ∀ child ∈ node.children, child.height < bound := by
  cases node with
  | scalar value => simp [height, children]
  | sequence items => rw [height, children, levelsOfItems_le]
  | mapping members => rw [height, children, levelsOfMembers_eq, levelsOfItems_le]
  | matcher rules combine sample =>
    rw [height, children, List.forall_mem_singleton, Nat.succ_le_iff]
  | repetition collection min max =>
    rw [height, children, List.forall_mem_singleton, Nat.succ_le_iff]
  | arrayContains variants => rw [height, children, levelsOfItems_le]
  | generator declaration sample =>
    rw [height, children, List.forall_mem_singleton, Nat.succ_le_iff]
  | composite rule declaration sample =>
    rw [height, children, List.forall_mem_singleton, Nat.succ_le_iff]
  | invalid description problem => simp [height, children]

end ConsumerContract.Node
