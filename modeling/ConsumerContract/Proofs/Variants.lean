/-
This file proves that no declaration of a body is an orphan: its path leads to a
part of the value. This is also so inside array-contains rules. Such a rule lies at
the path of an array with one element for each variant, and what the variant
declares is addressed from that element; variants may have variants again. So a
property is stated for a body and for its variants down to a number of levels, and
it holds at every level if it holds of each tree with its own value and maps.

An array-contains rule can also be carried by a matcher. It is recorded as it is
carried, and since it was not compiled from variants there need not be an array.
-/

import ConsumerContract.Proofs.Selected

namespace ConsumerContract

/-! ### Declarations of an encoded element -/

/-- The declarations of one sort by their paths. One that stands by itself is at the empty path. -/
def Declarations.entries {α : Type} : Option (Declarations α) → Keyed α
  | none => []
  | some (bare declaration) => [("", declaration)]
  | some (byPath entries) => entries

/-- What an encoded element declares. -/
def EncodedElement.declared (encoded : EncodedElement) : Declared :=
  ⟨Declarations.entries encoded.rules, Declarations.entries encoded.generators⟩

theorem Declarations.entries_ofEntries? {α : Type} (element : Element) (listed : Keyed α) :
    Declarations.entries (Declarations.ofEntries? element listed) = listed := by
  match listed with
  | [] => rfl
  | [(path, declaration)] =>
    rw [ofEntries?]
    split
    · rename_i bare
      rw [bare.2]
      rfl
    · rfl
  | _ :: _ :: _ => rfl

namespace Node

/-- What a tree declares as a body. -/
def declaredForm (node : Node) : Declared :=
  (node.entries .body false).declared .body

/-- An encoded body has the value of its tree without wrappers and the maps of its entries. -/
theorem encode_body_eq {node : Node} {maxDepth : Nat} {encoded : EncodedElement}
    (success : node.encode .body maxDepth = .ok encoded) :
    encoded.value = node.stripped ∧ encoded.declared = node.declaredForm := by
  unfold encode at success
  rw [bind_eq_ok] at success
  obtain ⟨compiled, success, same⟩ := success
  have form : compiled = node.compiledForm .body .body false := compilesToForm node success
  rw [← Except.ok.inj same, form, EncodedElement.declared]
  simp only [Declarations.entries_ofEntries?]
  exact ⟨rfl, rfl⟩

/-! ### Where a declaration comes from -/

/-- What is found in the map of a list of entries is one of them, at the path of its steps. -/
theorem mem_ofList_texts {α : Type} {listed : List (List Step × α)} {text : String}
    {declaration : α}
    (member : (text, declaration) ∈ Keyed.ofList (listed.map fun (steps, declaration) =>
      ((Path.body.ofSteps steps).text, declaration))) :
    ∃ steps, text = (Path.body.ofSteps steps).text ∧ (steps, declaration) ∈ listed := by
  obtain ⟨⟨steps, other⟩, listedHere, same⟩ := List.mem_map.mp (Keyed.mem_of_mem_ofList member)
  obtain ⟨rfl, rfl⟩ := Prod.mk.inj same
  exact ⟨steps, rfl, listedHere⟩

/-- Recorded rules are declared by a node at their path. -/
theorem exists_ownRules {node : Node} {text : String} {ruleSet : RuleSet}
    (member : (text, ruleSet) ∈ node.declaredForm.rules) :
    ∃ steps level part, text = (Path.body.ofSteps steps).text ∧
      Reaches .body false node steps level part ∧ part.ownRules? .body = some ruleSet := by
  obtain ⟨steps, rfl, listed⟩ := mem_ofList_texts member
  have recorded : (node.entries .body false).Records steps (.rules ruleSet) := listed
  obtain ⟨level, part, reached, own⟩ := records_entries.mp recorded
  exact ⟨steps, level, part, rfl, reached, own⟩

/-- A recorded generator is declared by a node at its path. -/
theorem exists_ownGenerator {node : Node} {text : String} {generator : Generator}
    (member : (text, generator) ∈ node.declaredForm.generators) :
    ∃ steps level part, text = (Path.body.ofSteps steps).text ∧
      Reaches .body false node steps level part ∧ part.ownGenerator? = some generator := by
  obtain ⟨steps, rfl, listed⟩ := mem_ofList_texts member
  have recorded : (node.entries .body false).Records steps (.generator generator) := listed
  obtain ⟨level, part, reached, own⟩ := records_entries.mp recorded
  exact ⟨steps, level, part, rfl, reached, own⟩

/-! ### Variants inside variants -/

/-- The rules that a node was given by its author. -/
def carriedRules : Node → List Rule
  | matcher rules _ _ => rules
  | composite rule _ _ => [rule]
  | _ => []

/-- A matcher or a composite that lies at the path was given the rule. -/
def CarriesAt (node : Node) (text : String) (rule : Rule) : Prop :=
  ∃ steps level part, text = (Path.body.ofSteps steps).text ∧
    Reaches .body false node steps level part ∧ rule ∈ part.carriedRules

/-- The variants come from an array-contains matcher at the path, an array of the value is found
there, and its element with the index of a variant is that variant's own value. With this value,
with its own tree and with what it declares, each variant has the property. -/
def VariantsHold (property : Node → Json → Declared → Prop) (node : Node) (value : Json)
    (text : String) (variants : List Variant) : Prop :=
  ∃ steps level trees items, text = (Path.body.ofSteps steps).text ∧
    Reaches .body false node steps level (.arrayContains trees) ∧
      .array items ∈ value.select steps ∧
        ∀ variant ∈ variants, ∃ tree own, trees[variant.index]? = some tree ∧
          items[variant.index]? = some own ∧ property tree own ⟨variant.rules, variant.generators⟩

/-- A body, given as its tree, its value and what it declares, has the property, and so have the
variants of every array-contains rule that it records and that is not carried by a matcher, down
to a number of levels of variants inside variants. -/
def HoldsThroughVariants (property : Node → Json → Declared → Prop) :
    Nat → Node → Json → Declared → Prop
  | 0, node, value, declared => property node value declared
  | levels + 1, node, value, declared =>
    property node value declared ∧
      ∀ text ruleSet variants, (text, ruleSet) ∈ declared.rules →
        .arrayContains variants ∈ ruleSet.matchers →
          node.CarriesAt text (.arrayContains variants) ∨
            VariantsHold (HoldsThroughVariants property levels) node value text variants

theorem mem_declaredVariants {position : Nat} {trees : List Node} {variant : Variant}
    (member : variant ∈ declaredVariants position trees) :
    ∃ offset tree, trees[offset]? = some tree ∧ variant.index = position + offset ∧
      (⟨variant.rules, variant.generators⟩ : Declared) = tree.declaredForm := by
  induction trees generalizing position with
  | nil => cases member
  | cons tree rest inductionHypothesis =>
    rw [declaredVariants] at member
    rcases List.mem_cons.mp member with rfl | later
    · exact ⟨0, tree, rfl, rfl, rfl⟩
    · obtain ⟨offset, other, found, index, same⟩ := inductionHypothesis later
      exact ⟨offset + 1, other, found, by omega, same⟩

/-- A rule that a node declares was given to it, or the kind of the node makes it. -/
theorem mem_matchers_of_ownRules {part : Node} {ruleSet : RuleSet} {rule : Rule}
    (own : part.ownRules? .body = some ruleSet) (listed : rule ∈ ruleSet.matchers) :
    rule ∈ part.carriedRules ∨ (∃ min max, rule = .type min max) ∨
      ∃ trees, part = .arrayContains trees ∧ rule = .arrayContains (declaredVariants 0 trees) := by
  cases part with
  | matcher rules combine sample =>
    obtain rfl := Option.some.inj own
    exact Or.inl listed
  | composite carried declaration sample =>
    obtain rfl := Option.some.inj own
    exact Or.inl listed
  | repetition collection min max =>
    obtain rfl := Option.some.inj own
    exact Or.inr (Or.inl ⟨min, max, List.mem_singleton.mp listed⟩)
  | arrayContains trees =>
    obtain rfl := Option.some.inj own
    exact Or.inr (Or.inr ⟨trees, rfl, List.mem_singleton.mp listed⟩)
  | _ => cases own

/-- A tree inside an ordered one. -/
def Ordered.part (tree : Ordered) {part : Node} (inside : tree.node.Contains part) : Ordered :=
  ⟨part, fun members found => tree.ordered members (inside.trans found)⟩

/-- A property that each tree has with its own value and maps holds of all variants as well. The
assumption on trees has to pass to every tree inside. -/
theorem holdsThroughVariants (Assumed : Ordered → Prop) {property : Node → Json → Declared → Prop}
    (passes : ∀ (tree : Ordered) {part : Node} (inside : tree.node.Contains part),
      Assumed tree → Assumed (tree.part inside))
    (each : ∀ tree, Assumed tree → property tree.node tree.node.stripped tree.node.declaredForm)
    (levels : Nat) (tree : Ordered) (assumed : Assumed tree) :
    HoldsThroughVariants property levels tree.node tree.node.stripped tree.node.declaredForm := by
  induction levels generalizing tree with
  | zero => exact each tree assumed
  | succ levels inductionHypothesis =>
    refine ⟨each tree assumed, fun text ruleSet variants member listed => ?_⟩
    obtain ⟨steps, level, part, place, reached, own⟩ := exists_ownRules member
    rcases mem_matchers_of_ownRules own listed with carried | ⟨_, _, other⟩ | ⟨trees, rfl, same⟩
    · exact Or.inl ⟨steps, level, part, place, reached, carried⟩
    · cases other
    · obtain rfl := Rule.arrayContains.inj same
      have selected := reached.mem_select tree.ordered nofun
      rw [valuesAt_false, List.flatMap_singleton] at selected
      refine Or.inr ⟨steps, level, trees, strippedItems trees, place, reached, selected, ?_⟩
      intro variant inside
      obtain ⟨offset, own, found, index, same⟩ := mem_declaredVariants inside
      rw [Nat.zero_add] at index
      have contained : tree.node.Contains own :=
        reached.contains.trans (.deeper (List.mem_of_getElem? found) (.itself own))
      rw [index, same]
      exact ⟨own, own.stripped, found, getElem?_strippedItems found,
        inductionHypothesis (tree.part contained) (passes tree contained assumed)⟩

/-! ### No orphan paths -/

end Node

/-- The text is the path of steps that lead to some part of the value. -/
def Json.HasPart (value : Json) (text : String) : Prop :=
  ∃ steps, text = (Path.body.ofSteps steps).text ∧ value.select steps ≠ []

/-- Every path with rules and every path with a generator leads to some part of the value. -/
def Declared.PointsInto (declared : Declared) (value : Json) : Prop :=
  (∀ text ∈ Keyed.keys declared.rules, value.HasPart text) ∧
    ∀ text ∈ Keyed.keys declared.generators, value.HasPart text

namespace Node

theorem hasPart_of_reaches {tree : Ordered} {part : Node} {steps : List Step} {level : Nat}
    (reached : Reaches .body false tree.node steps level part)
    (other : ∀ items, part ≠ .sequence items) :
    tree.node.stripped.HasPart (Path.body.ofSteps steps).text := by
  have selected := reached.mem_select tree.ordered other
  rw [valuesAt_false, List.flatMap_singleton] at selected
  exact ⟨steps, rfl, List.ne_nil_of_mem selected⟩

theorem declaredForm_pointsInto (tree : Ordered) :
    tree.node.declaredForm.PointsInto tree.node.stripped := by
  constructor
  · intro text member
    obtain ⟨⟨_, ruleSet⟩, found, rfl⟩ := List.mem_map.mp member
    obtain ⟨steps, level, part, place, reached, own⟩ := exists_ownRules found
    rw [place]
    exact hasPart_of_reaches reached (by rintro items rfl; cases own)
  · intro text member
    obtain ⟨⟨_, generator⟩, found, rfl⟩ := List.mem_map.mp member
    obtain ⟨steps, level, part, place, reached, own⟩ := exists_ownGenerator found
    rw [place]
    exact hasPart_of_reaches reached (by rintro items rfl; cases own)

/-- An encoded body has no orphan paths, and neither have the variants of its array-contains
rules, however deep they lie in variants. Each of their paths leads to a part of the variant's own
value, which is an element of the array at the path of the rule. -/
theorem encode_body_pointsInto (tree : Ordered) (maxDepth : Nat) (encoded : EncodedElement)
    (success : tree.node.encode .body maxDepth = .ok encoded) (levels : Nat) :
    HoldsThroughVariants (fun _ value declared => declared.PointsInto value) levels tree.node
      encoded.value encoded.declared := by
  obtain ⟨sameValue, sameDeclared⟩ := encode_body_eq success
  rw [sameValue, sameDeclared]
  exact holdsThroughVariants (fun _ => True) (fun _ _ _ _ => trivial)
    (fun tree _ => declaredForm_pointsInto tree) levels tree trivial

/-- The keys of a repeated mapping and of a variant inside a variant lead to parts of the value. -/
theorem encode_body_pointsInto_of_links :
    let record := Node.mapping [("a b", .matcher [.sameType] none (.integer 1))]
    let inner := Node.arrayContains [.generator (.uuid none) (.string "x")]
    let outer := Node.arrayContains [.null, .mapping [("to", inner)]]
    let tree : Ordered :=
      ⟨.mapping [("ids", .repetition record none none), ("links", outer)], by decide⟩
    ∃ encoded, tree.node.encode .body 6 = .ok encoded ∧
      Keyed.keys encoded.declared.rules = ["$.ids", "$.ids[*].*['a b']", "$.links"] ∧
        HoldsThroughVariants (fun _ value declared => declared.PointsInto value) 2 tree.node
          encoded.value encoded.declared := by
  intro record inner outer tree
  exact ⟨_, rfl, rfl, encode_body_pointsInto tree 6 _ rfl 2⟩

/-- A matcher may carry an array-contains rule around a number. It is recorded, and there is no
array that its variant could be an element of. -/
theorem carried_variant_without_array :
    let variant : Variant := ⟨0, [], []⟩
    let tree : Ordered := ⟨.matcher [.arrayContains [variant]] none (.integer 5), by decide⟩
    ∃ encoded ruleSet, tree.node.encode .body defaultMaxDepth = .ok encoded ∧
      ("$", ruleSet) ∈ encoded.declared.rules ∧ .arrayContains [variant] ∈ ruleSet.matchers ∧
        ∀ steps items, "$" = (Path.body.ofSteps steps).text →
          .array items ∉ encoded.value.select steps := by
  intro variant tree
  refine ⟨_, ⟨[.arrayContains [variant]], none⟩, rfl, List.mem_cons_self,
    List.mem_cons_self, fun steps items place selected => ?_⟩
  have here : Path.body.ofSteps steps = Path.body.ofSteps [] := congrArg Path.mk place.symm
  obtain rfl := Path.ofSteps_injective rfl here
  cases List.mem_singleton.mp selected

end Node

end ConsumerContract
