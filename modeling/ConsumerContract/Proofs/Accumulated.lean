/-
This file proves that joining fresh maps comes to the same as filling one pair of
maps. The compiler gives every part of a tree maps of its own; it merges or
overlays those of the parts of a collection, and a wrapper inserts its own
declarations into those of its sample. A recorder walks the tree once, with inner
nodes before the wrappers around them and the parts of a collection from left to
right, and writes each declaration into the same two maps. There a declaration
takes the place of one that was written at its path before.

The list of entries of a tree stands between the two: it is the order of the
writes, and the compiler is known to give the maps of that list.
-/

import ConsumerContract.Proofs.Compiled

namespace ConsumerContract

namespace Declared

/-- Writes the rules of a node that lies at a path. -/
def writeRules (declared : Declared) (path : Path) (ruleSet : RuleSet) : Declared :=
  { declared with rules := declared.rules.insert path.text ruleSet }

/-- Writes the generator of a node that lies at a path. -/
def writeGenerator (declared : Declared) (path : Path) (generator : Generator) : Declared :=
  { declared with generators := declared.generators.insert path.text generator }

end Declared

namespace Node

mutual

/-- The maps after the declarations of a tree at a path have been written into them. The flag
says, as in compiling, that the tree is a repeated collection. -/
def record (element : Element) (path : Path) (repeated : Bool) (declared : Declared) :
    Node → Declared
  | scalar _ | invalid .. => declared
  | sequence items => recordItems element path (repeated || element.sharesItems) 0 declared items
  | mapping members => recordMembers element path declared members
  | matcher rules combine sample =>
    (sample.record element path false declared).writeRules path ⟨rules, combine⟩
  | repetition collection min max =>
    let inner :=
      match collection.anyPart? with
      | some step => collection.record element (path.child step) true declared
      | none => declared
    inner.writeRules path (repetitionRules min max)
  | arrayContains variants =>
    declared.writeRules path ⟨[.arrayContains (recordVariants 0 variants)], none⟩
  | generator declaration sample =>
    (sample.record element path false declared).writeGenerator path declaration
  | composite rule declaration sample =>
    let inner := sample.record element path false declared
    -- A request path is a text in any case, so its composites have no rules.
    let ruled := if element = .path then inner else inner.writeRules path ⟨[rule], none⟩
    ruled.writeGenerator path declaration

/-- The maps after the elements of a sequence from `position` on. -/
def recordItems (element : Element) (path : Path) (shared : Bool) (position : Nat)
    (declared : Declared) : List Node → Declared
  | [] => declared
  | item :: rest =>
    let written := item.record element (path.item shared position) false declared
    recordItems element path shared (position + 1) written rest

/-- The maps after the members of a mapping. -/
def recordMembers (element : Element) (path : Path) (declared : Declared) :
    List (String × Node) → Declared
  | [] => declared
  | (key, member) :: rest =>
    let written := member.record element (path.child (.key key)) false declared
    recordMembers element path written rest

/-- The variants of an array-contains rule from `position` on. Each is a body of its own with
its own pair of maps, and nothing of it is written into those of the tree around it. -/
def recordVariants (position : Nat) : List Node → List Variant
  | [] => []
  | variant :: rest =>
    let own := variant.record .body .body false .empty
    ⟨position, own.rules, own.generators⟩ :: recordVariants (position + 1) rest

end

end Node

/-! ### Writing a list of entries -/

namespace Declared

/-- The maps after all entries of a tree at a path have been written in their order. -/
def writeAll (declared : Declared) (path : Path) (entries : Entries) : Declared where
  rules :=
    (entries.rules.map fun (steps, ruleSet) => ((path.ofSteps steps).text, ruleSet)).foldl
      (fun built entry => Keyed.insert entry.1 entry.2 built) declared.rules
  generators :=
    (entries.generators.map fun (steps, generator) => ((path.ofSteps steps).text, generator)).foldl
      (fun built entry => Keyed.insert entry.1 entry.2 built) declared.generators

variable (declared : Declared) (path : Path) (entries : Entries)

theorem empty_writeAll : Declared.empty.writeAll path entries = entries.declared path := rfl

theorem writeAll_empty : declared.writeAll path .empty = declared := rfl

theorem writeAll_append (others : Entries) :
    declared.writeAll path (entries.append others) =
      (declared.writeAll path entries).writeAll path others := by
  simp only [writeAll, Entries.append, List.map_append, List.foldl_append]

/-- Entries behind a step are written as those of a tree at the path behind it. -/
theorem writeAll_below (step : Step) :
    declared.writeAll path (entries.below step) = declared.writeAll (path.child step) entries := by
  simp only [writeAll, Entries.below, List.map_map]
  rfl

theorem writeAll_withRules (ruleSet : RuleSet) :
    declared.writeAll path (entries.withRules ruleSet) =
      (declared.writeAll path entries).writeRules path ruleSet := by
  simp only [writeAll, Entries.withRules, List.map_append, List.foldl_append]
  rfl

theorem writeAll_withGenerator (generator : Generator) :
    declared.writeAll path (entries.withGenerator generator) =
      (declared.writeAll path entries).writeGenerator path generator := by
  simp only [writeAll, Entries.withGenerator, List.map_append, List.foldl_append]
  rfl

end Declared

namespace Node

/-! ### The walk writes the entries -/

/-- Walking the tree is writing its entries, whatever has been written before. -/
def RecordsEntries (node : Node) : Prop :=
  ∀ (element : Element) (path : Path) (repeated : Bool) (declared : Declared),
    node.record element path repeated declared =
      declared.writeAll path (node.entries element repeated)

theorem recordItems_eq {items : List Node} (each : ∀ item ∈ items, item.RecordsEntries)
    (element : Element) (path : Path) (shared : Bool) (position : Nat) (declared : Declared) :
    recordItems element path shared position declared items =
      declared.writeAll path (entriesOfItems element shared position items) := by
  induction items generalizing position declared with
  | nil => rfl
  | cons item rest inductionHypothesis =>
    have placed : item.record element (path.item shared position) false declared =
        declared.writeAll path (if shared then item.entries element false
          else (item.entries element false).below (.index position)) := by
      rw [each item List.mem_cons_self]
      cases shared with
      | true => rfl
      | false =>
        rw [if_neg Bool.false_ne_true, Declared.writeAll_below]
        rfl
    rw [recordItems, placed,
      inductionHypothesis fun other member => each other (List.mem_cons_of_mem _ member),
      entriesOfItems, Declared.writeAll_append]

theorem recordMembers_eq {members : List (String × Node)}
    (each : ∀ key member, (key, member) ∈ members → member.RecordsEntries)
    (element : Element) (path : Path) (declared : Declared) :
    recordMembers element path declared members =
      declared.writeAll path (entriesOfMembers element members) := by
  induction members generalizing declared with
  | nil => rfl
  | cons entry rest inductionHypothesis =>
    obtain ⟨key, member⟩ := entry
    rw [recordMembers, each key member List.mem_cons_self, ← Declared.writeAll_below,
      inductionHypothesis fun key other member => each key other (List.mem_cons_of_mem _ member),
      entriesOfMembers, Declared.writeAll_append]

theorem recordVariants_eq {variants : List Node}
    (each : ∀ variant ∈ variants, variant.RecordsEntries) (position : Nat) :
    recordVariants position variants = declaredVariants position variants := by
  induction variants generalizing position with
  | nil => rfl
  | cons variant rest inductionHypothesis =>
    rw [recordVariants, declaredVariants, each variant List.mem_cons_self,
      Declared.empty_writeAll,
      inductionHypothesis fun other member => each other (List.mem_cons_of_mem _ member)]

theorem recordsEntries (node : Node) : node.RecordsEntries := by
  induction node with
  | scalar value => exact fun _ _ _ _ => rfl
  | sequence items each =>
    intro element path repeated declared
    rw [record, entries, recordItems_eq each]
  | mapping members each =>
    intro element path repeated declared
    rw [record, entries, recordMembers_eq each]
  | matcher rules combine sample inductionHypothesis =>
    intro element path repeated declared
    rw [record, entries, inductionHypothesis, Declared.writeAll_withRules]
  | repetition collection min max inductionHypothesis =>
    intro element path repeated declared
    rw [record, entries, Declared.writeAll_withRules]
    refine congrArg (Declared.writeRules · path (repetitionRules min max)) ?_
    cases collection.anyPart? with
    | none => rfl
    | some step =>
      exact (inductionHypothesis _ _ _ _).trans (Declared.writeAll_below _ _ _ _).symm
  | arrayContains variants each =>
    intro element path repeated declared
    rw [record, entries, recordVariants_eq each, Declared.writeAll_withRules,
      Declared.writeAll_empty]
  | generator declaration sample inductionHypothesis =>
    intro element path repeated declared
    rw [record, entries, inductionHypothesis, Declared.writeAll_withGenerator]
  | composite rule declaration sample inductionHypothesis =>
    intro element path repeated declared
    rw [record, entries, inductionHypothesis, Declared.writeAll_withGenerator]
    by_cases bare : element = .path
    · rw [if_pos bare, if_pos bare]
    · rw [if_neg bare, if_neg bare, Declared.writeAll_withRules]
  | invalid description problem => exact fun _ _ _ _ => rfl

/-- What a tree declares when it is compiled is what one walk over it writes into two maps that
were empty before: for every element, at every path, repeated or not and within every limit. -/
theorem compile_declared_eq_record (node : Node) (element : Element) (path : Path)
    (repeated : Bool) (maxDepth : Nat) (compiled : Compiled)
    (success : node.compile element path repeated maxDepth = .ok compiled) :
    compiled.toDeclared = node.record element path repeated .empty := by
  rw [compilesToForm node success, recordsEntries node, Declared.empty_writeAll]
  rfl

/-- The second element of a repeated sequence writes over the rules of the first one, and a
matcher around a generator over those of the matcher inside it. -/
theorem compile_declared_eq_record_of_ids :
    let first := Node.matcher [.integer] none (.integer 1)
    let inner := Node.matcher [.notEmpty] none (.string "x")
    let second := Node.matcher [.sameType] none (.generator (.uuid none) inner)
    let tree := Node.mapping [("ids", .repetition (.sequence [first, second]) (some 1) none)]
    ∃ compiled, tree.compile .body .body false 6 = .ok compiled ∧
      compiled.toDeclared = tree.record .body .body false .empty ∧
        compiled.rules.find? "$.ids[*]" = some ⟨[.sameType], none⟩ ∧
          compiled.generators = [("$.ids[*]", .uuid none)] := by
  intro first inner second tree
  have success : tree.compile .body .body false 6 = .ok (tree.compiledForm .body .body false) := rfl
  exact ⟨_, success, compile_declared_eq_record tree _ _ _ _ _ success, rfl, rfl⟩

end Node

end ConsumerContract
