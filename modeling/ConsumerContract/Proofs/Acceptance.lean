/-
This file proves that exactly the well-formed trees are accepted as bodies. What
the compiler checks before, while and after it visits the parts of a node comes
to local conditions on the nodes of the tree and a bound on its height. A refused
tree breaks one of them, since a failure names a node that does, and a tree that
is accepted has been through every check.
-/

import ConsumerContract.Encoding.Declarations
import ConsumerContract.Proofs.Failures
import ConsumerContract.Proofs.Parts

namespace ConsumerContract.Node

/-! ### Offenders are not sound -/

theorem IsSound.fitsDeclarations {node : Node} (sound : node.IsSound) :
    node.FitsDeclarations := by
  cases node with
  | matcher rules combine sample => exact sound.2
  | generator declaration sample => exact sound.1
  | composite rule declaration sample => exact ⟨sound.2.1, sound.2.2.1⟩
  | _ => trivial

theorem IsSound.generatesAlone {node : Node} (sound : node.IsSound)
    (bears : node.bearsGenerator = true) : node.GeneratesAlone := by
  cases node with
  | generator declaration sample => exact sound.2
  | composite rule declaration sample => exact sound.2.2.2
  | _ => cases bears

theorem IsSound.sample_isMatcher {node sample : Node} (sound : node.IsSound)
    (ruled : node.isMatcher = true) (wrapped : node.sample? = some sample) :
    sample.isMatcher = false := by
  cases node with
  | matcher rules combine inner =>
    obtain rfl := Option.some.inj wrapped
    exact sound.1
  | composite rule declaration inner =>
    obtain rfl := Option.some.inj wrapped
    exact sound.1
  | generator declaration inner => cases ruled
  | _ => cases wrapped

/-- A node in the way of encoding is not sound, or it lies too deep. -/
theorem Offends.unsound {limit depth : Nat} {node : Node} {reason : FailureReason}
    (offends : node.Offends limit depth reason) : ¬ node.IsSound ∨ limit < depth := by
  cases reason with
  | notEncodable =>
    refine Or.inl fun sound => ?_
    rcases offends with ⟨description, rfl⟩ | ⟨number, rfl, infinite⟩
    · exact sound
    · rw [IsSound, infinite] at sound
      cases sound
  | patternMismatch pattern => exact Or.inl fun sound => offends sound.fitsDeclarations
  | invalidPattern pattern problem => exact Or.inl fun sound => offends sound.fitsDeclarations
  | nestedMatcher =>
    obtain ⟨isMatcher, sample, wrapped, nested⟩ := offends
    refine Or.inl fun sound => ?_
    rw [sound.sample_isMatcher isMatcher wrapped] at nested
    cases nested
  | pathCollision =>
    obtain ⟨bears, crowded⟩ := offends
    exact Or.inl fun sound => crowded (sound.generatesAlone bears)
  | depthExceeded bound => exact Or.inr offends.2
  | invalidParameter problem =>
    refine Or.inl fun sound => ?_
    rcases offends with ⟨description, text, rfl⟩ | ⟨collection, min, max, rfl, shape⟩
    · exact sound
    · exact anyPart?_eq_none.mp shape sound

/-! ### What has been through every check -/

section Checks

variable {limit depth : Nat} {path : Path} {repeated : Bool} {node : Node} {compiled : Compiled}

/-- A tree that was compiled as a part of a body, so many levels below the whole. -/
def Passes (limit depth : Nat) (node : Node) : Prop :=
  ∃ path repeated compiled, path.isEmpty = false ∧
    compileAt limit .body path repeated depth node = .ok compiled

theorem Passes.of_compileAt (rooted : path.isEmpty = false)
    (success : compileAt limit .body path repeated depth node = .ok compiled) :
    node.Passes limit depth :=
  ⟨path, repeated, compiled, rooted, success⟩

theorem passes_iff : node.Passes limit depth ↔ node.Succeeds .body limit depth :=
  exists₃_congr fun _ _ _ => and_congr_left fun _ =>
    ⟨fun rooted _ => rooted, fun rooted => rooted rfl⟩

/-- The trees below a part that was compiled were compiled one level deeper. -/
theorem Passes.children (passes : node.Passes limit depth) :
    ∀ child ∈ node.children, child.Passes limit (depth + 1) :=
  fun child member => passes_iff.mpr (or_self_iff.mp ((passes_iff.mp passes).children child member))

/-- Where a wrapper's generator was recorded, there is none in its layers. -/
theorem generatesAlone_of_withGenerator (node : Node) (rooted : path.isEmpty = false)
    {sample : Node} (wrapped : node.sample? = some sample) {inner : Compiled} {own : Generator}
    (same : inner.generators = ((sample.entries .body false).declared path).generators)
    (success : inner.withGenerator path own sample = .ok compiled) : node.GeneratesAlone := by
  refine Classical.not_not.mp fun crowded => ?_
  have member := (mem_generators_declared node rooted wrapped).mpr crowded
  rw [Compiled.withGenerator_eq, same, if_pos member] at success
  cases success

/-- A part that was compiled is sound. -/
theorem Passes.isSound (passes : node.Passes limit depth) : node.IsSound := by
  obtain ⟨path, repeated, compiled, rooted, success⟩ := passes
  have within := depth_le_of_compileAt success
  cases node with
  | scalar value =>
    cases value with
    | float number =>
      rw [compileAt_scalar within, bind_eq_ok] at success
      obtain ⟨json, read, _⟩ := success
      cases finite : number.isFinite with
      | true => exact finite
      | false =>
        rw [Scalar.toJson, Binary.numeral?_eq_none.mpr finite] at read
        cases read
    | _ => trivial
  | sequence items => trivial
  | mapping members => trivial
  | matcher rules combine sample =>
    rw [compileAt_matcher within] at success
    simp only [bind_eq_ok] at success
    obtain ⟨_, plain, _, fits, _⟩ := success
    exact ⟨rejectMatcher_eq_ok.mp plain, Rule.checkAll_eq_ok.mp fits⟩
  | repetition collection min max =>
    refine Classical.not_not.mp fun other => ?_
    rw [compileAt_repetition_none within (anyPart?_eq_none.mpr other)] at success
    cases success
  | arrayContains variants => trivial
  | generator declaration sample =>
    rw [compileAt_generator within] at success
    simp only [bind_eq_ok] at success
    obtain ⟨_, fits, inner, success, recorded⟩ := success
    have same : inner.generators = ((sample.entries .body false).declared path).generators := by
      rw [compilesToForm sample success, compiledForm]
    exact ⟨Generator.check_eq_ok.mp fits,
      generatesAlone_of_withGenerator _ rooted rfl same recorded⟩
  | composite rule declaration sample =>
    rw [compileAt_composite within] at success
    simp only [bind_eq_ok] at success
    obtain ⟨_, plain, _, describes, _, reproduces, inner, success, recorded⟩ := success
    exact ⟨rejectMatcher_eq_ok.mp plain, Rule.check_eq_ok.mp describes,
      Generator.check_eq_ok.mp reproduces,
      generatesAlone_of_withGenerator _ rooted rfl (generators_ruled success) recorded⟩
  | invalid description problem =>
    rw [compileAt_invalid within] at success
    cases success

/-- A tree that was compiled fits into the levels that are left, and all of it is sound. -/
theorem Passes.wellFormed (passes : node.Passes limit depth) :
    depth + node.height ≤ limit ∧ node.WellFormed := by
  induction node using childInduction generalizing depth with
  | node node inductionHypothesis =>
    have below := passes.children
    have sound := passes.isSound
    obtain ⟨path, repeated, compiled, rooted, success⟩ := passes
    have within := depth_le_of_compileAt success
    have lower : node.height ≤ limit - depth := by
      refine height_le.mpr fun child member => ?_
      have fits := (inductionHypothesis child member (below child member)).1
      omega
    exact ⟨by omega, forall_contains.mpr ⟨sound, fun child member =>
      (inductionHypothesis child member (below child member)).2⟩⟩

end Checks

/-! ### Acceptance -/

theorem encode_ok_iff {node : Node} {element : Element} {maxDepth : Nat} :
    (∃ encoded, node.encode element maxDepth = .ok encoded) ↔
      ∃ compiled, node.compile element element.root false maxDepth = .ok compiled := by
  unfold encode
  simp only [bind_eq_ok]
  constructor
  · rintro ⟨encoded, compiled, success, _⟩
    exact ⟨compiled, success⟩
  · rintro ⟨compiled, success⟩
    exact ⟨_, compiled, success, rfl⟩

/-- The tree of a body is accepted if it is well formed and not higher than the limit, and only
then. -/
theorem encode_body_ok_iff (tree : Ordered) (maxDepth : Nat) :
    (∃ encoded, tree.node.encode .body maxDepth = .ok encoded) ↔
      tree.node.height ≤ maxDepth ∧ tree.node.WellFormed := by
  rw [encode_ok_iff]
  constructor
  · rintro ⟨compiled, success⟩
    obtain ⟨fits, wellFormed⟩ := (Passes.of_compileAt rfl success).wellFormed
    rw [Nat.zero_add] at fits
    exact ⟨fits, wellFormed⟩
  · rintro ⟨fits, wellFormed⟩
    cases outcome : tree.node.compile .body Element.body.root false maxDepth with
    | ok compiled => exact ⟨compiled, rfl⟩
    | error failure =>
      obtain ⟨steps, level, part, lies, -, offends⟩ := explainsFailures tree rfl outcome
      rcases offends.unsound with unsound | deep
      · exact absurd (wellFormed part lies.contains) unsound
      · have above := lies.level_le
        omega

/-- A tree of five levels with a pattern that fits is well formed, and it takes all five. -/
theorem encode_body_ok_iff_of_ids :
    let sample := Node.matcher [.regex "[a-f]+"] none (.string "cafe")
    let ids := Node.repetition (.sequence [.generator (.uuid none) sample]) (some 1) none
    let tree : Ordered := ⟨.mapping [("ids", ids)], by decide⟩
    tree.node.WellFormed ∧ (∃ encoded, tree.node.encode .body 5 = .ok encoded) ∧
      ¬ ∃ encoded, tree.node.encode .body 4 = .ok encoded := by
  intro sample ids tree
  have accepted : (tree.node.encode .body 5).isOk = true := by decide +kernel
  cases outcome : tree.node.encode .body 5 with
  | error failure =>
    rw [outcome] at accepted
    cases accepted
  | ok encoded =>
    obtain ⟨-, wellFormed⟩ := (encode_body_ok_iff tree 5).mp ⟨encoded, outcome⟩
    refine ⟨wellFormed, ⟨encoded, rfl⟩, fun shallow => ?_⟩
    exact absurd ((encode_body_ok_iff tree 4).mp shallow).1 (by decide)

end ConsumerContract.Node
