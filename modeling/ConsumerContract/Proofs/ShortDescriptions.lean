/-
This file says how little of a tree a short description reads. A description is made of
an excerpt of the tree: a few members of each collection, down to a few levels. Trees
with the same excerpt have the same description. A run that keeps an account of its visits,
and that stops if it would have to count below the last level, makes the same text, never
stops, and has the same small account to give for trees of any size. So a message about a
tree that is too deep can be made without going down into it.
-/

import ConsumerContract.Proofs.Tree
import Mathlib.Algebra.Group.Action.Defs
import Mathlib.Algebra.Order.BigOperators.Group.List
import Mathlib.Algebra.Ring.GeomSum
import Mathlib.Data.List.MinMax
import Mathlib.Data.Nat.PSub

namespace ConsumerContract.Node

/-! ### Members that are shown -/

/-- The first members of a collection, and one in place of all others. -/
def cut {Member : Type} (others : Member) (members : List Member) : List Member :=
  members.take describedMembers ++ if describedMembers < members.length then [others] else []

theorem describeItems_eq (levels shown : Nat) (items : List Node) :
    describeItems levels shown items =
      (items.take shown).map (describeWithin levels) ++
        if shown < items.length then ["..."] else [] := by
  induction items generalizing shown with
  | nil => cases shown <;> simp [describeItems]
  | cons item rest inductionHypothesis =>
    cases shown with
    | zero => simp [describeItems]
    | succ shown => simp [describeItems, inductionHypothesis]

theorem describeMembers_eq (levels shown : Nat) (members : List (String × Node)) :
    describeMembers levels shown members =
      (members.take shown).map (fun entry =>
          "\"" ++ entry.1 ++ "\": " ++ describeWithin levels entry.2) ++
        if shown < members.length then ["..."] else [] := by
  induction members generalizing shown with
  | nil => cases shown <;> simp [describeMembers]
  | cons entry rest inductionHypothesis =>
    obtain ⟨key, value⟩ := entry
    cases shown with
    | zero => simp [describeMembers]
    | succ shown => simp [describeMembers, inductionHypothesis]

section Cut

variable {Member : Type} (others : Member) (members : List Member)

theorem take_cut : (cut others members).take describedMembers = members.take describedMembers := by
  by_cases more : describedMembers < members.length
  · rw [cut, List.take_left' (List.length_take_of_le more.le)]
  · rw [cut, if_neg more, List.append_nil, List.take_take, min_self]

theorem lt_length_cut :
    describedMembers < (cut others members).length ↔ describedMembers < members.length := by
  rw [cut, List.length_append, List.length_take]
  split <;> simp only [List.length_singleton, List.length_nil] <;> omega

end Cut

/-! ### Excerpts -/

/-- The part of a tree that a description down to `levels` levels reads. -/
def excerptWithin : Nat → Node → Node
  | _, scalar value => scalar value
  | _, invalid description problem => invalid description problem
  | _, arrayContains variants => arrayContains (List.replicate variants.length (scalar .null))
  | 0, sequence _ => sequence []
  | 0, mapping _ => mapping []
  | 0, matcher rules combine _ => matcher rules combine (scalar .null)
  | 0, repetition _ min max => repetition (scalar .null) min max
  | 0, generator declaration _ => generator declaration (scalar .null)
  | 0, composite rule declaration _ => composite rule declaration (scalar .null)
  | levels + 1, sequence items => sequence (cut (scalar .null) (items.map (excerptWithin levels)))
  | levels + 1, mapping members =>
    mapping (cut ("", scalar .null) (members.map fun entry =>
      (entry.1, excerptWithin levels entry.2)))
  | levels + 1, matcher rules combine sample =>
    matcher rules combine (excerptWithin levels sample)
  | levels + 1, repetition collection min max =>
    repetition (excerptWithin levels collection) min max
  | levels + 1, generator declaration sample => generator declaration (excerptWithin levels sample)
  | levels + 1, composite rule declaration sample =>
    composite rule declaration (excerptWithin levels sample)

/-- The part of a tree that its description reads. -/
def excerpt (node : Node) : Node :=
  node.excerptWithin describedLevels

/-- An excerpt reads like the tree it was taken from. -/
theorem describeWithin_excerptWithin (levels : Nat) (node : Node) :
    (node.excerptWithin levels).describeWithin levels = node.describeWithin levels := by
  induction levels generalizing node with
  | zero =>
    cases node with
    | scalar value => rw [excerptWithin]
    | invalid description problem => rw [excerptWithin]
    | arrayContains variants =>
      rw [excerptWithin, describeWithin, describeWithin, List.length_replicate]
    | _ => simp only [excerptWithin, describeWithin, describeInner]
  | succ levels inductionHypothesis =>
    cases node with
    | scalar value => rw [excerptWithin]
    | invalid description problem => rw [excerptWithin]
    | arrayContains variants =>
      rw [excerptWithin, describeWithin, describeWithin, List.length_replicate]
    | sequence items =>
      have same : describeWithin levels ∘ excerptWithin levels = describeWithin levels :=
        funext inductionHypothesis
      simp only [excerptWithin, describeWithin, describeItems_eq, take_cut, lt_length_cut,
        ← List.map_take, List.map_map, List.length_map, same]
    | mapping members =>
      simp only [excerptWithin, describeWithin, describeMembers_eq, take_cut, lt_length_cut,
        ← List.map_take, List.map_map, List.length_map, Function.comp_def, inductionHypothesis]
    | _ => simp only [excerptWithin, describeWithin, describeInner, inductionHypothesis]

/-! ### Visits -/

/-- A description with an account of the visits that made it: how many nodes were visited,
and how many of them at most lay inside of one another. -/
structure Rendering where
  text : String
  visits : Nat
  depth : Nat

namespace Rendering

/-- A visit of a node, after those of the nodes inside it that went into its text. -/
def around (inner : List Rendering) (text : String) : Rendering where
  text
  visits := (inner.map visits).sum + 1
  depth := (inner.map depth).foldr max 0 + 1

/-- The visit of a wrapper with the one of the node inside it, if there was any. -/
def wrapper (name : String) (inner : Option Rendering) : Rendering :=
  around inner.toList (name ++ "(" ++ inner.elim "..." text ++ ")")

/-- The texts of the visited members, and dots if there are others that were not visited. -/
def elided (inner : List Rendering) (length : Nat) : String :=
  ", ".intercalate (inner.map text ++ if describedMembers < length then ["..."] else [])

/-- A visited member, shown under its key. -/
def labelled (key : String) (value : Rendering) : Rendering :=
  { value with text := "\"" ++ key ++ "\": " ++ value.text }

end Rendering

/-- The visit of the node inside a wrapper, if there is a level left for it. -/
def renderInner (levels : Nat) (render : Nat → Option Rendering) : Option (Option Rendering) :=
  if levels = 0 then some none else (levels.ppred.bind render).map some

mutual

/-- The run that describes a node and keeps the account. It counts the levels down with a
subtraction that gives nothing below zero. -/
def renderWithin (levels : Nat) : Node → Option Rendering
  | scalar (.string text) => some (.around [] ("\"" ++ text ++ "\""))
  | scalar value => some (.around [] value.text)
  | invalid description _ => some (.around [] description)
  | sequence items =>
    if levels = 0 then some (.around [] "[...]")
    else do
      let inner ← renderItems (← levels.ppred) describedMembers items
      some (.around inner ("[" ++ Rendering.elided inner items.length ++ "]"))
  | mapping members =>
    if levels = 0 then some (.around [] "\x7b...\x7d")
    else do
      let inner ← renderMembers (← levels.ppred) describedMembers members
      some (.around inner ("\x7b" ++ Rendering.elided inner members.length ++ "\x7d"))
  | matcher rules _ sample =>
    (renderInner levels fun lower => renderWithin lower sample).map
      (.wrapper ("+".intercalate (rules.map Rule.kind)))
  | repetition collection _ _ =>
    (renderInner levels fun lower => renderWithin lower collection).map (.wrapper "eachLike")
  | arrayContains variants =>
    some (.around [] ("arrayContains(" ++ decimalText variants.length ++ " variants)"))
  | generator declaration sample =>
    (renderInner levels fun lower => renderWithin lower sample).map (.wrapper declaration.kind)
  | composite rule declaration sample =>
    (renderInner levels fun lower => renderWithin lower sample).map
      (.wrapper (rule.kind ++ "+" ++ declaration.kind))

/-- The visits of the first items. -/
def renderItems (levels : Nat) : Nat → List Node → Option (List Rendering)
  | _, [] => some []
  | 0, _ :: _ => some []
  | shown + 1, item :: rest => do
    let first ← renderWithin levels item
    some (first :: (← renderItems levels shown rest))

/-- The visits of the first members. -/
def renderMembers (levels : Nat) : Nat → List (String × Node) → Option (List Rendering)
  | _, [] => some []
  | 0, _ :: _ => some []
  | shown + 1, (key, value) :: rest => do
    let first ← renderWithin levels value
    some (.labelled key first :: (← renderMembers levels shown rest))

end

theorem renderItems_eq (levels shown : Nat) (items : List Node) :
    renderItems levels shown items = (items.take shown).mapM (renderWithin levels) := by
  induction items generalizing shown with
  | nil => cases shown <;> rfl
  | cons item rest inductionHypothesis =>
    cases shown with
    | zero => rfl
    | succ shown =>
      rw [renderItems, inductionHypothesis, List.take_succ_cons, List.mapM_cons]
      rfl

theorem renderMembers_eq (levels shown : Nat) (members : List (String × Node)) :
    renderMembers levels shown members = (members.take shown).mapM fun entry =>
      (renderWithin levels entry.2).map (.labelled entry.1) := by
  induction members generalizing shown with
  | nil => cases shown <;> rfl
  | cons entry rest inductionHypothesis =>
    obtain ⟨key, value⟩ := entry
    cases shown with
    | zero => rfl
    | succ shown =>
      rw [renderMembers, inductionHypothesis, List.take_succ_cons, List.mapM_cons]
      cases renderWithin levels value <;> rfl

/-! ### The account -/

/-- The account of a run that has `levels` levels to go down, for trees of any size. -/
structure Rendering.IsShort (rendering : Rendering) (levels : Nat) : Prop where
  visits : rendering.visits ≤ ∑ depth ∈ Finset.range (levels + 1), describedMembers ^ depth
  depth : rendering.depth ≤ levels + 1

/-- The run does not stop, and makes the text with a short account. -/
def Renders (run : Option Rendering) (levels : Nat) (text : String) : Prop :=
  ∃ rendering, run = some rendering ∧ rendering.text = text ∧ rendering.IsShort levels

theorem Rendering.IsShort.leaf (levels : Nat) (text : String) :
    (Rendering.around [] text).IsShort levels where
  visits := by
    rw [geom_sum_succ]
    exact Nat.le_add_left 1 _
  depth := Nat.le_add_left 1 _

theorem Rendering.IsShort.around {levels : Nat} {inner : List Rendering} (text : String)
    (few : inner.length ≤ describedMembers) (each : ∀ rendering ∈ inner, rendering.IsShort levels) :
    (Rendering.around inner text).IsShort (levels + 1) where
  visits := by
    have total : (inner.map Rendering.visits).sum ≤
        inner.length * ∑ depth ∈ Finset.range (levels + 1), describedMembers ^ depth := by
      rw [← List.length_map Rendering.visits, ← smul_eq_mul]
      refine List.sum_le_card_nsmul _ _ (List.forall_mem_map.mpr fun rendering member => ?_)
      exact (each rendering member).visits
    rw [geom_sum_succ]
    exact Nat.succ_le_succ (total.trans (Nat.mul_le_mul_right _ few))
  depth := by
    refine Nat.succ_le_succ (List.max_le_of_forall_le _ _ (List.forall_mem_map.mpr ?_))
    exact fun rendering member => (each rendering member).depth

theorem renders_leaf (levels : Nat) (text : String) :
    Renders (some (.around [] text)) levels text :=
  ⟨_, rfl, rfl, .leaf levels text⟩

/-- The visits of the first members, where each of them goes well. -/
theorem exists_mapM {Member : Type} {levels : Nat} {run : Member → Option Rendering}
    {text : Member → String} (each : ∀ member, Renders (run member) levels (text member))
    (members : List Member) :
    ∃ inner, members.mapM run = some inner ∧ inner.map Rendering.text = members.map text ∧
      ∀ rendering ∈ inner, rendering.IsShort levels := by
  induction members with
  | nil => exact ⟨[], rfl, rfl, fun rendering member => absurd member List.not_mem_nil⟩
  | cons member rest inductionHypothesis =>
    obtain ⟨first, visited, shown, short⟩ := each member
    obtain ⟨inner, visitedRest, shownRest, shortRest⟩ := inductionHypothesis
    refine ⟨first :: inner, ?_, ?_, List.forall_mem_cons.mpr ⟨short, shortRest⟩⟩
    · rw [List.mapM_cons, visited, visitedRest]
      rfl
    · rw [List.map_cons, List.map_cons, shown, shownRest]

/-- The visit of a collection, where that of each member goes well. -/
theorem renders_collection {Member : Type} {levels : Nat} {run : Member → Option Rendering}
    {text : Member → String} (each : ∀ member, Renders (run member) levels (text member))
    (members : List Member) (opening closing : String) :
    Renders (do
        let inner ← (members.take describedMembers).mapM run
        some (.around inner (opening ++ Rendering.elided inner members.length ++ closing)))
      (levels + 1)
      (opening ++ ", ".intercalate ((members.take describedMembers).map text ++
        if describedMembers < members.length then ["..."] else []) ++ closing) := by
  obtain ⟨inner, visited, shown, short⟩ := exists_mapM each (members.take describedMembers)
  have few : inner.length ≤ describedMembers := by
    rw [← List.length_map Rendering.text, shown, List.length_map]
    exact List.length_take_le _ _
  rw [visited, ← shown]
  exact ⟨_, rfl, rfl, .around _ few short⟩

/-- The visit of a wrapper, where that of the node inside goes well at the next level. -/
theorem renders_wrapper {levels : Nat} {sample : Node}
    (inside : Renders (renderWithin levels sample) levels (sample.describeWithin levels))
    (name : String) :
    Renders
      ((renderInner (levels + 1) fun lower => renderWithin lower sample).map (.wrapper name))
      (levels + 1) (name ++ "(" ++ describeInner (levels + 1) sample ++ ")") := by
  obtain ⟨inner, visited, shown, short⟩ := inside
  have lowered : (renderInner (levels + 1) fun lower => renderWithin lower sample) =
      some (some inner) := by
    rw [renderInner, if_neg levels.succ_ne_zero, Nat.ppred_succ, Option.bind_some, visited]
    rfl
  have single : 1 ≤ describedMembers := by decide
  rw [lowered, describeInner, ← shown]
  exact ⟨_, rfl, rfl, .around _ single (List.forall_mem_singleton.mpr short)⟩

theorem renders_labelled {levels : Nat} {run : Option Rendering} {text : String}
    (inside : Renders run levels text) (key : String) :
    Renders (run.map (.labelled key)) levels ("\"" ++ key ++ "\": " ++ text) := by
  obtain ⟨inner, rfl, rfl, short⟩ := inside
  exact ⟨_, rfl, rfl, short.visits, short.depth⟩

/-- The run makes the description, with a short account. -/
theorem renders_renderWithin (levels : Nat) (node : Node) :
    Renders (node.renderWithin levels) levels (node.describeWithin levels) := by
  induction levels generalizing node with
  | zero =>
    cases node with
    | scalar value =>
      cases value <;> simp only [renderWithin, describeWithin] <;> exact renders_leaf _ _
    | repetition collection min max =>
      rw [describeWithin, describeInner]
      exact renders_leaf 0 _
    | _ =>
      simp only [renderWithin, describeWithin, describeInner]
      exact renders_leaf 0 _
  | succ levels inductionHypothesis =>
    cases node with
    | scalar value =>
      cases value <;> simp only [renderWithin, describeWithin] <;> exact renders_leaf _ _
    | invalid description problem =>
      rw [renderWithin, describeWithin]
      exact renders_leaf _ _
    | arrayContains variants =>
      rw [renderWithin, describeWithin]
      exact renders_leaf _ _
    | sequence items =>
      rw [renderWithin, if_neg levels.succ_ne_zero, describeWithin, describeItems_eq]
      simp only [renderItems_eq]
      exact renders_collection inductionHypothesis items "[" "]"
    | mapping members =>
      rw [renderWithin, if_neg levels.succ_ne_zero, describeWithin, describeMembers_eq]
      simp only [renderMembers_eq]
      refine renders_collection (fun entry => ?_) members "\x7b" "\x7d"
      exact renders_labelled (inductionHypothesis entry.2) entry.1
    | matcher rules combine sample =>
      rw [renderWithin, describeWithin]
      exact renders_wrapper (inductionHypothesis sample) _
    | repetition collection min max =>
      rw [renderWithin, describeWithin]
      exact renders_wrapper (inductionHypothesis collection) "eachLike"
    | generator declaration sample =>
      rw [renderWithin, describeWithin]
      exact renders_wrapper (inductionHypothesis sample) _
    | composite rule declaration sample =>
      rw [renderWithin, describeWithin]
      exact renders_wrapper (inductionHypothesis sample) _

/-- Trees with the same excerpt have the same description. The description of any tree is made by
at most 4681 visits, with at most five nodes inside of one another, and without counting the levels
down below zero. -/
theorem describe_reads_excerpt :
    (∀ first second : Node, first.excerpt = second.excerpt → first.describe = second.describe) ∧
      ∀ node : Node, ∃ rendering, node.renderWithin describedLevels = some rendering ∧
        rendering.text = node.describe ∧ rendering.depth ≤ 5 ∧ rendering.visits ≤ 4681 := by
  constructor
  · intro first second same
    calc first.describe
        = first.excerpt.describe := (describeWithin_excerptWithin _ first).symm
      _ = second.excerpt.describe := by rw [same]
      _ = second.describe := describeWithin_excerptWithin _ second
  · intro node
    obtain ⟨rendering, visited, shown, short⟩ := renders_renderWithin describedLevels node
    have bound : ∑ depth ∈ Finset.range (describedLevels + 1), describedMembers ^ depth = 4681 := by
      decide
    exact ⟨rendering, visited, shown, short.depth, bound ▸ short.visits⟩

/-- Neither the items of the list inside the repetition nor those from the ninth on are read. -/
theorem describe_reads_excerpt_of_hidden :
    let deep (hidden : List Node) := mapping [("a",
      matcher [.sameType] none (repetition (sequence hidden) none none))]
    let seven := List.replicate 7 (arrayContains [scalar .null])
    let first := sequence (deep [scalar (.integer 1)] :: seven ++ [scalar (.bool true)])
    let second := sequence (deep [] :: seven ++ [invalid "x" none, scalar .null])
    first ≠ second ∧ first.excerpt = second.excerpt ∧ first.describe = second.describe := by
  intro deep seven first second
  have different : first ≠ second := fun same => by
    have lengths : first.children.length = second.children.length := by rw [same]
    exact absurd lengths (by decide)
  exact ⟨different, rfl, describe_reads_excerpt.1 first second rfl⟩

end ConsumerContract.Node
