/-
This file says what a tree stands for without compiling it: the JSON value that
is left when every wrapper is reduced to its sample, and the declarations of the
wrappers in the order in which the tree is left, inner ones first and parts of a
collection from left to right. Writing these declarations into one map, where a
later one takes the place of an earlier one, gives the declarations of the whole.
-/

import ConsumerContract.Encoding.Compiled
import ConsumerContract.Proofs.Keyed
import ConsumerContract.Proofs.Tree

namespace ConsumerContract

/-! ### Values without wrappers -/

/-- The JSON value of a leaf; a number that is not finite has none and counts as null. -/
def Scalar.stripped : Scalar → Json
  | null => .null
  | bool value => .bool value
  | integer value => .ofInt value.toInt
  | float value =>
    match value.numeral? with
    | some numeral => .number numeral
    | none => .null
  | decimal value => .number value.numeral
  | string value => .string value

namespace Node

mutual

/-- The value of a tree without its wrappers. A repeated mapping is the only element of an
array, and an array-contains matcher has one element for each variant. -/
def stripped : Node → Json
  | scalar value => value.stripped
  | sequence items => .array (strippedItems items)
  | mapping members => .object (strippedMembers members)
  | matcher _ _ sample | generator _ sample | composite _ _ sample => sample.stripped
  | repetition (mapping members) _ _ => .array [.object (strippedMembers members)]
  | repetition collection _ _ => collection.stripped
  | arrayContains variants => .array (strippedItems variants)
  | invalid .. => .null

/-- Each item without its wrappers. -/
def strippedItems : List Node → List Json
  | [] => []
  | item :: rest => item.stripped :: strippedItems rest

/-- Each member without its wrappers. -/
def strippedMembers : List (String × Node) → List (String × Json)
  | [] => []
  | (key, member) :: rest => (key, member.stripped) :: strippedMembers rest

end

theorem stripped_of_sample? {node inner : Node} (wrapped : node.sample? = some inner) :
    node.stripped = inner.stripped := by
  cases node with
  | matcher rules combine sample => rw [stripped, Option.some.inj wrapped]
  | generator declaration sample => rw [stripped, Option.some.inj wrapped]
  | composite rule declaration sample => rw [stripped, Option.some.inj wrapped]
  | _ => cases wrapped

end Node

/-! ### Lists of declarations -/

/-- Declarations in the order in which they are recorded, each with the steps from a tree
down to the node that makes it. -/
structure Entries where
  rules : List (List Step × RuleSet)
  generators : List (List Step × Generator)

namespace Entries

def empty : Entries := ⟨[], []⟩

/-- The entries of one tree and then those of another one. -/
def append (first second : Entries) : Entries :=
  ⟨first.rules ++ second.rules, first.generators ++ second.generators⟩

/-- The entries of a tree, seen from one step above it. -/
def below (step : Step) (entries : Entries) : Entries where
  rules := entries.rules.map fun (steps, ruleSet) => (step :: steps, ruleSet)
  generators := entries.generators.map fun (steps, generator) => (step :: steps, generator)

/-- Adds the rules of the tree's own node. -/
def withRules (entries : Entries) (ruleSet : RuleSet) : Entries :=
  { entries with rules := entries.rules ++ [([], ruleSet)] }

/-- Adds the generator of the tree's own node. -/
def withGenerator (entries : Entries) (generator : Generator) : Entries :=
  { entries with generators := entries.generators ++ [([], generator)] }

/-- Both sorts of declarations. -/
inductive Declaration where
  | rules (ruleSet : RuleSet)
  | generator (generator : Generator)

/-- The declaration is among the entries, with these steps. -/
def Records (entries : Entries) (steps : List Step) : Declaration → Prop
  | .rules ruleSet => (steps, ruleSet) ∈ entries.rules
  | .generator generator => (steps, generator) ∈ entries.generators

/-- The maps that the entries of a tree at `path` make up, each entry under its own path. -/
def declared (path : Path) (entries : Entries) : Declared where
  rules := .ofList (entries.rules.map fun (steps, ruleSet) =>
    ((path.ofSteps steps).text, ruleSet))
  generators := .ofList (entries.generators.map fun (steps, generator) =>
    ((path.ofSteps steps).text, generator))

end Entries

namespace Node

mutual

/-- The declarations of a tree. As in compiling, `repeated` says that the tree is a repeated
collection; its elements, and those of any sequence outside a body, lie where it lies. -/
def entries (element : Element) (repeated : Bool) : Node → Entries
  | scalar _ | invalid .. => .empty
  | sequence items => entriesOfItems element (repeated || element.sharesItems) 0 items
  | mapping members => entriesOfMembers element members
  | matcher rules combine sample => (sample.entries element false).withRules ⟨rules, combine⟩
  | repetition collection min max =>
    let inner :=
      match collection.anyPart? with
      | some step => (collection.entries element true).below step
      | none => .empty
    inner.withRules (repetitionRules min max)
  | arrayContains variants =>
    Entries.empty.withRules ⟨[.arrayContains (declaredVariants 0 variants)], none⟩
  | generator declaration sample => (sample.entries element false).withGenerator declaration
  | composite rule declaration sample =>
    let inner := sample.entries element false
    let ruled := if element = .path then inner else inner.withRules ⟨[rule], none⟩
    ruled.withGenerator declaration

/-- The declarations of the elements of a sequence from `position` on. -/
def entriesOfItems (element : Element) (shared : Bool) (position : Nat) : List Node → Entries
  | [] => .empty
  | item :: rest =>
    let inner := item.entries element false
    let placed := if shared then inner else inner.below (.index position)
    placed.append (entriesOfItems element shared (position + 1) rest)

/-- The declarations of the members of a mapping. -/
def entriesOfMembers (element : Element) : List (String × Node) → Entries
  | [] => .empty
  | (key, member) :: rest =>
    ((member.entries element false).below (.key key)).append (entriesOfMembers element rest)

/-- The variants of an array-contains rule from `position` on, each with its own
declarations from the root of a body. -/
def declaredVariants (position : Nat) : List Node → List Variant
  | [] => []
  | variant :: rest =>
    let declared := (variant.entries .body false).declared .body
    ⟨position, declared.rules, declared.generators⟩ :: declaredVariants (position + 1) rest

end

/-- What a tree at `path` is compiled to, if it can be compiled. -/
def compiledForm (element : Element) (path : Path) (repeated : Bool) (node : Node) : Compiled :=
  ⟨(node.entries element repeated).declared path, node.stripped⟩

end Node

/-- Recording a generator fails exactly where there is one at the same path. -/
theorem Compiled.withGenerator_eq (compiled : Compiled) (path : Path) (generator : Generator)
    (sample : Node) :
    compiled.withGenerator path generator sample =
      if path.text ∈ Keyed.keys compiled.generators then
        .error (Declared.collision sample path.text)
      else
        .ok { compiled with generators := compiled.generators.insert path.text generator } := by
  unfold withGenerator
  rw [Keyed.merge_singleton]
  by_cases member : path.text ∈ Keyed.keys compiled.generators
  · rw [if_pos member, if_pos member]
  · rw [if_neg member, if_neg member]

/-! ### Recorded entries -/

namespace Entries

theorem not_records_empty (steps : List Step) (declaration : Declaration) :
    ¬ empty.Records steps declaration := by
  cases declaration <;> exact List.not_mem_nil

theorem records_append {first second : Entries} {steps : List Step} {declaration : Declaration} :
    (first.append second).Records steps declaration ↔
      first.Records steps declaration ∨ second.Records steps declaration := by
  cases declaration <;> exact List.mem_append

theorem records_below {step : Step} {entries : Entries} {steps : List Step}
    {declaration : Declaration} :
    (entries.below step).Records steps declaration ↔
      ∃ rest, steps = step :: rest ∧ entries.Records rest declaration := by
  have moved {α : Type} (listed : List (List Step × α)) (item : α) :
      (steps, item) ∈ listed.map (fun (steps, item) => (step :: steps, item)) ↔
        ∃ rest, steps = step :: rest ∧ (rest, item) ∈ listed := by
    constructor
    · intro member
      obtain ⟨⟨rest, other⟩, found, same⟩ := List.mem_map.mp member
      obtain ⟨rfl, rfl⟩ := Prod.mk.inj same
      exact ⟨rest, rfl, found⟩
    · rintro ⟨rest, rfl, found⟩
      exact List.mem_map_of_mem (f := fun (steps, item) => (step :: steps, item)) found
  cases declaration with
  | rules ruleSet => exact moved entries.rules ruleSet
  | generator generator => exact moved entries.generators generator

theorem records_withRules {entries : Entries} {ruleSet : RuleSet} {steps : List Step}
    {declaration : Declaration} :
    (entries.withRules ruleSet).Records steps declaration ↔
      entries.Records steps declaration ∨ steps = [] ∧ declaration = .rules ruleSet := by
  cases declaration <;> simp [Records, withRules]

theorem records_withGenerator {entries : Entries} {generator : Generator} {steps : List Step}
    {declaration : Declaration} :
    (entries.withGenerator generator).Records steps declaration ↔
      entries.Records steps declaration ∨ steps = [] ∧ declaration = .generator generator := by
  cases declaration <;> simp [Records, withGenerator]

/-! ### Maps of entries -/

theorem empty_append (entries : Entries) : empty.append entries = entries := rfl

theorem append_empty (entries : Entries) : entries.append empty = entries := by
  rw [append, empty, List.append_nil, List.append_nil]

theorem append_assoc (first second third : Entries) :
    (first.append second).append third = first.append (second.append third) := by
  simp only [append, List.append_assoc]

theorem declared_below (step : Step) (path : Path) (entries : Entries) :
    (entries.below step).declared path = entries.declared (path.child step) := by
  rw [declared, declared, below, List.map_map, List.map_map]
  rfl

theorem declared_withRules (path : Path) (entries : Entries) (ruleSet : RuleSet) :
    (entries.withRules ruleSet).declared path =
      { entries.declared path with
        rules := (entries.declared path).rules.insert path.text ruleSet } := by
  rw [declared, declared, withRules, List.map_append, List.map_singleton, Keyed.ofList_concat]
  rfl

theorem declared_withGenerator (path : Path) (entries : Entries) (generator : Generator) :
    (entries.withGenerator generator).declared path =
      { entries.declared path with
        generators := (entries.declared path).generators.insert path.text generator } := by
  rw [declared, declared, withGenerator, List.map_append, List.map_singleton, Keyed.ofList_concat]
  rfl

/-- Laying the maps of two lists of entries over each other is recording both lists. -/
theorem declared_append (path : Path) (first second : Entries) :
    (first.append second).declared path =
      ⟨(first.declared path).rules.overlay (second.declared path).rules,
        (first.declared path).generators.overlay (second.declared path).generators⟩ := by
  rw [declared, declared, declared, append, Keyed.overlay_ofList, Keyed.overlay_ofList,
    List.map_append, List.map_append]

/-- Where the declarations of two parts can be joined, both lists are recorded. -/
theorem declared_append_of_join {shared : Bool} {path : Path} {part : Node}
    {first second : Entries} {joined : Declared}
    (success : (first.declared path).join shared part (second.declared path) = .ok joined) :
    joined = (first.append second).declared path := by
  rw [declared_append]
  unfold Declared.join at success
  split at success
  · exact (Except.ok.inj success).symm
  · split at success
    · cases success
    · rename_i rules sameRules
      split at success
      · cases success
      · rename_i generators sameGenerators
        rw [← Except.ok.inj success, Keyed.eq_overlay_of_merge sameRules,
          Keyed.eq_overlay_of_merge sameGenerators]

/-- Where a wrapper's generator can be recorded, it comes behind what lies below it. -/
theorem compiled_withGenerator {path : Path} {entries : Entries} {value : Json}
    {generator : Generator} {sample : Node} {compiled : Compiled}
    (success : Compiled.withGenerator ⟨entries.declared path, value⟩ path generator sample =
      .ok compiled) : compiled = ⟨(entries.withGenerator generator).declared path, value⟩ := by
  rw [Compiled.withGenerator_eq] at success
  split at success
  · cases success
  · rw [← Except.ok.inj success, declared_withGenerator]

end Entries

end ConsumerContract
