/-
This file proves that an encoded body agrees with its own patterns. A pattern is
checked while the tree is compiled, against the sample of the wrapper that
declares it, before anything has been recorded. What is recorded at a path in the
end was declared by some node there, and that node was accepted, so its sample is a
leaf that the pattern matches; and the leaf lies at the path as well. As long as no
two elements of a repeated sequence share a path, its value is the only one there.

The same is true inside the variants of a body, since each of them was compiled from
a tree of its own. Ready-made variants that a matcher carries come without examples.
-/

import ConsumerContract.Proofs.Variants

namespace ConsumerContract

/-- The text of a leaf that is a text in the value is this text. -/
theorem Scalar.text_of_stripped {sample : Scalar} {written : String}
    (same : sample.stripped = .string written) : sample.text = written := by
  cases sample with
  | string value => exact Json.string.inj same
  | float number =>
    rw [Scalar.stripped] at same
    split at same
    · cases same
    · cases same
  | _ => cases same

namespace Node

/-- The pattern can be read and matches the example at the path. This is the leaf of the tree
that lies there, its value is the only one that is found there, and the text that is matched is
the value itself if that is a text. -/
def SampleFits (node : Node) (value : Json) (text pattern : String) : Prop :=
  ∃ steps level sample, text = (Path.body.ofSteps steps).text ∧
    Reaches .body false node steps level (.scalar sample) ∧
      value.select steps = [sample.stripped] ∧ Pattern.Fits pattern sample.text ∧
        ∀ written, value.select steps = [.string written] → Pattern.Fits pattern written

/-- Whatever a body declares with a pattern fits the example at its path, and the pattern of a
URL on the mock server has one group and fits the URL that it came with. -/
structure SamplesFit (node : Node) (value : Json) (declared : Declared) : Prop where
  rules : ∀ text ruleSet pattern, (text, ruleSet) ∈ declared.rules →
    .regex pattern ∈ ruleSet.matchers → node.SampleFits value text pattern
  generators : ∀ text pattern, (text, .regex pattern) ∈ declared.generators →
    node.SampleFits value text pattern
  urls : ∀ text url pattern, (text, .mockServerUrl url pattern) ∈ declared.generators →
    ∃ compiled, Pattern.compile pattern = .ok compiled ∧ compiled.groupCount = 1 ∧
      compiled.matchesIn url = true

/-! ### Samples of accepted nodes -/

theorem Reaches.sample {element : Element} {repeated : Bool} {node part sample : Node}
    {steps : List Step} {level : Nat} (reached : Reaches element repeated node steps level part)
    (wrapped : part.sample? = some sample) :
    Reaches element repeated node steps (level + 1) sample := by
  induction reached with
  | itself repeated node => exact .deeper (.sample wrapped) (.itself false sample)
  | deeper edge inside inductionHypothesis => exact .deeper edge (inductionHypothesis wrapped)

theorem IsSound.describes {part : Node} (sound : part.IsSound) {rule : Rule}
    (carried : rule ∈ part.carriedRules) :
    ∃ sample, part.sample? = some sample ∧ rule.Describes sample := by
  cases part with
  | matcher rules combine sample => exact ⟨sample, rfl, sound.2 rule carried⟩
  | composite own declaration sample =>
    obtain rfl := List.mem_singleton.mp carried
    exact ⟨sample, rfl, sound.2.1⟩
  | _ => cases carried

theorem IsSound.reproduces {part : Node} (sound : part.IsSound) {declaration : Generator}
    (own : part.ownGenerator? = some declaration) :
    ∃ sample, part.sample? = some sample ∧ declaration.Reproduces sample := by
  cases part with
  | generator other sample =>
    obtain rfl := Option.some.inj own
    exact ⟨sample, rfl, sound.1⟩
  | composite rule other sample =>
    obtain rfl := Option.some.inj own
    exact ⟨sample, rfl, sound.2.2.1⟩
  | _ => cases own

/-- The leaf inside a wrapper is the example at the path of the wrapper. -/
theorem sampleFits_of_reaches {tree : Ordered} {part sample : Node} {steps : List Step}
    {level : Nat} {pattern : String} (single : tree.node.RepeatsSingly)
    (reached : Reaches .body false tree.node steps level part)
    (wrapped : part.sample? = some sample) (fits : sample.FitsPattern pattern) :
    tree.node.SampleFits tree.node.stripped (Path.body.ofSteps steps).text pattern := by
  obtain ⟨leaf, rfl, fits⟩ := fits
  have there := reached.sample wrapped
  have selected := there.select_eq tree.ordered ⟨single, nofun⟩ nofun
  rw [valuesAt_false, List.flatMap_singleton] at selected
  have shown : tree.node.stripped.select steps = [leaf.stripped] := selected
  refine ⟨steps, level + 1, leaf, rfl, there, shown, fits, fun written same => ?_⟩
  have isText : leaf.stripped = .string written := List.singleton_inj.mp (shown.symm.trans same)
  rw [← Scalar.text_of_stripped isText]
  exact fits

/-! ### Agreement -/

theorem declaredForm_samplesFit {tree : Ordered} (single : tree.node.RepeatsSingly)
    (wellFormed : tree.node.WellFormed) :
    tree.node.SamplesFit tree.node.stripped tree.node.declaredForm where
  rules := by
    intro text ruleSet pattern member listed
    obtain ⟨steps, level, part, rfl, reached, own⟩ := exists_ownRules member
    rcases mem_matchers_of_ownRules own listed with carried | ⟨_, _, other⟩ | ⟨_, _, other⟩
    · obtain ⟨sample, wrapped, fits⟩ := (wellFormed part reached.contains).describes carried
      exact sampleFits_of_reaches single reached wrapped fits
    · cases other
    · cases other
  generators := by
    intro text pattern member
    obtain ⟨steps, level, part, rfl, reached, own⟩ := exists_ownGenerator member
    obtain ⟨sample, wrapped, fits⟩ := (wellFormed part reached.contains).reproduces own
    exact sampleFits_of_reaches single reached wrapped fits
  urls := by
    intro text url pattern member
    obtain ⟨steps, level, part, rfl, reached, own⟩ := exists_ownGenerator member
    obtain ⟨sample, wrapped, fits⟩ := (wellFormed part reached.contains).reproduces own
    exact fits

/-- An encoded body agrees with the patterns that it declares, and so does every variant of its
array-contains rules, as long as no two elements of a repeated sequence share a path. -/
theorem encode_body_samplesFit (tree : Ordered) (single : tree.node.RepeatsSingly)
    (maxDepth : Nat) (encoded : EncodedElement)
    (success : tree.node.encode .body maxDepth = .ok encoded) (levels : Nat) :
    HoldsThroughVariants SamplesFit levels tree.node encoded.value encoded.declared := by
  obtain ⟨compiled, passed⟩ := encode_ok_iff.mp ⟨encoded, success⟩
  have wellFormed := (Passes.of_compileAt rfl passed).wellFormed.2
  obtain ⟨sameValue, sameDeclared⟩ := encode_body_eq success
  rw [sameValue, sameDeclared]
  exact holdsThroughVariants (fun part => part.node.RepeatsSingly ∧ part.node.WellFormed)
    (fun _ _ inside assumed =>
      ⟨fun collection min max found => assumed.1 collection min max (inside.trans found),
        fun part found => assumed.2 part (inside.trans found)⟩)
    (fun _ assumed => declaredForm_samplesFit assumed.1 assumed.2) levels tree
    ⟨single, wellFormed⟩

/-- A pattern for the one element of a repeated sequence fits, and so do a pattern and a URL in
a variant. -/
theorem encode_body_samplesFit_of_ids :
    let id := Node.matcher [.regex "[a-f]+"] none (.string "cafe")
    let url := Node.generator (.mockServerUrl "http://x/a" "(/a)$") (.string "http://x/a")
    let links := Node.mapping [("n", .generator (.regex "[0-9]") (.integer 7)), ("url", url)]
    let ids := Node.repetition (.sequence [id]) (some 1) none
    let tree : Ordered := ⟨.mapping [("ids", ids), ("links", .arrayContains [links])], by decide⟩
    tree.node.RepeatsSingly ∧ ∃ encoded, tree.node.encode .body 5 = .ok encoded ∧
      HoldsThroughVariants SamplesFit 1 tree.node encoded.value encoded.declared := by
  intro id url links ids tree
  have single : tree.node.RepeatsSingly := by decide
  have accepted : (tree.node.encode .body 5).isOk = true := by decide +kernel
  cases outcome : tree.node.encode .body 5 with
  | error failure =>
    rw [outcome] at accepted
    cases accepted
  | ok encoded =>
    exact ⟨single, encoded, rfl, encode_body_samplesFit tree single 5 encoded outcome 1⟩

/-- A matcher may carry an array-contains rule with a pattern that can not be read. The rule is
recorded as it is, and its variant agrees with no tree and no value. -/
theorem carried_variant_with_faulty_pattern :
    let variant : Variant := ⟨0, [("$", ⟨[.regex "("], none⟩)], []⟩
    let tree : Ordered := ⟨.matcher [.arrayContains [variant]] none (.integer 5), by decide⟩
    tree.node.RepeatsSingly ∧ ∃ encoded ruleSet,
      tree.node.encode .body defaultMaxDepth = .ok encoded ∧
        ("$", ruleSet) ∈ encoded.declared.rules ∧ .arrayContains [variant] ∈ ruleSet.matchers ∧
          ∀ own value, ¬ SamplesFit own value ⟨variant.rules, variant.generators⟩ := by
  intro variant tree
  refine ⟨by decide, _, ⟨[.arrayContains [variant]], none⟩, rfl, List.mem_cons_self,
    List.mem_cons_self, fun own value fit => ?_⟩
  obtain ⟨_, _, _, _, _, _, ⟨compiled, read, _⟩, _⟩ :=
    fit.rules "$" _ "(" List.mem_cons_self List.mem_cons_self
  have refused : (Pattern.compile "(").isOk = false := by decide +kernel
  rw [read] at refused
  cases refused

end Node

end ConsumerContract
