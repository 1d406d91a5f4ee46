/-
This file says which trees have a compiled form. The conditions are local: each of
them looks at one node and at what lies inside it at the same path. They are
stated apart from the compiler, whose checks are then shown to decide them.
-/

import ConsumerContract.Encoding.Compiled
import ConsumerContract.Proofs.Tree

namespace ConsumerContract

/-! ### Declarations and their samples -/

/-- The text can be read as a pattern, and the pattern matches the value. -/
def Pattern.Fits (text value : String) : Prop :=
  ∃ pattern, Pattern.compile text = .ok pattern ∧ pattern.matchesIn value = true

/-- The sample is a leaf with a text that the pattern matches. -/
def Node.FitsPattern (sample : Node) (text : String) : Prop :=
  ∃ value, sample = .scalar value ∧ Pattern.Fits text value.text

/-- A rule describes its sample; only patterns can fail to. -/
def Rule.Describes (sample : Node) : Rule → Prop
  | .regex text => sample.FitsPattern text
  | _ => True

/-- A generator can reproduce its sample, or the URL that it came with. -/
def Generator.Reproduces (sample : Node) : Generator → Prop
  | .regex text => sample.FitsPattern text
  | .mockServerUrl url text =>
    ∃ pattern, Pattern.compile text = .ok pattern ∧ pattern.groupCount = 1 ∧
      pattern.matchesIn url = true
  | _ => True

namespace Node

/-- There is no second generator at the path of this one. -/
def GeneratesAlone (node : Node) : Prop :=
  ∀ layer ∈ node.layers, layer.bearsGenerator = false

theorem not_generatesAlone {node : Node} :
    ¬ node.GeneratesAlone ↔ ∃ layer ∈ node.layers, layer.bearsGenerator = true := by
  simp only [GeneratesAlone, Classical.not_forall, Bool.not_eq_false, exists_prop]

/-- Nothing about the node itself is in the way of encoding it. -/
def IsSound : Node → Prop
  | scalar (.float number) => number.isFinite = true
  | scalar _ | sequence _ | mapping _ | arrayContains _ => True
  | matcher rules _ sample =>
    sample.isMatcher = false ∧ ∀ rule ∈ rules, rule.Describes sample
  | repetition collection _ _ =>
    (∃ items, collection = .sequence items) ∨ ∃ members, collection = .mapping members
  | generator declaration sample =>
    declaration.Reproduces sample ∧ (generator declaration sample).GeneratesAlone
  | composite rule declaration sample =>
    sample.isMatcher = false ∧ rule.Describes sample ∧ declaration.Reproduces sample ∧
      (composite rule declaration sample).GeneratesAlone
  | invalid .. => False

/-- Every node of the tree is sound, those of variants included. -/
def WellFormed (node : Node) : Prop :=
  ∀ part, node.Contains part → part.IsSound

end Node

/-! ### Checks -/

theorem readPattern_eq_ok {text : String} {path : Path} {pattern : Pattern} :
    readPattern text path = .ok pattern ↔ Pattern.compile text = .ok pattern := by
  unfold readPattern
  split
  · rename_i read
    rw [read]
    simp
  · rename_i refused
    rw [refused]
    simp

theorem Node.fits_eq_true {sample : Node} {pattern : Pattern} :
    sample.fits pattern = true ↔
      ∃ value, sample = .scalar value ∧ pattern.matchesIn value.text = true := by
  cases sample <;> simp [Node.fits]

theorem checkExample_eq_ok {pattern : Pattern} {sample : Node} {path : Path} :
    checkExample pattern sample path = .ok () ↔
      ∃ value, sample = .scalar value ∧ pattern.matchesIn value.text = true := by
  rw [← Node.fits_eq_true, checkExample]
  split
  · rename_i fits
    simp [fits]
  · rename_i misfit
    simp [misfit]

/-- Reading a pattern and checking the sample with it. -/
theorem checkPattern_eq_ok {text : String} {sample : Node} {path : Path} :
    (match readPattern text path with
      | .ok pattern => checkExample pattern sample path
      | .error failure => .error failure) = .ok () ↔ sample.FitsPattern text := by
  cases read : readPattern text path with
  | ok pattern =>
    have compiled := readPattern_eq_ok.mp read
    simp [checkExample_eq_ok, Node.FitsPattern, Pattern.Fits, compiled]
  | error failure =>
    have refused (pattern : Pattern) : Pattern.compile text ≠ .ok pattern := fun compiled => by
      rw [readPattern_eq_ok.mpr compiled] at read
      cases read
    simp [Node.FitsPattern, Pattern.Fits, refused]

theorem Rule.check_eq_ok {rule : Rule} {sample : Node} {path : Path} :
    rule.check sample path = .ok () ↔ rule.Describes sample := by
  cases rule with
  | regex text => exact checkPattern_eq_ok
  | _ => exact iff_of_true rfl trivial

theorem Rule.checkAll_eq_ok {rules : List Rule} {sample : Node} {path : Path} :
    Rule.checkAll sample path rules = .ok () ↔ ∀ rule ∈ rules, rule.Describes sample := by
  induction rules with
  | nil => simp [Rule.checkAll]
  | cons rule rest inductionHypothesis =>
    have first : rule.check sample path = .ok () ↔ rule.Describes sample := Rule.check_eq_ok
    rw [List.forall_mem_cons, ← inductionHypothesis, ← first, Rule.checkAll]
    cases rule.check sample path with
    | ok value => simp
    | error failure => simp

theorem Generator.check_eq_ok {generator : Generator} {sample : Node} {path : Path} :
    generator.check sample path = .ok () ↔ generator.Reproduces sample := by
  cases generator with
  | regex text => exact checkPattern_eq_ok
  | mockServerUrl url text =>
    rw [Generator.check, Generator.Reproduces]
    cases read : readPattern text path with
    | ok pattern =>
      have compiled := readPattern_eq_ok.mp read
      by_cases single : pattern.groupCount = 1
      · simp [checkExample_eq_ok, Node.string, Scalar.text, compiled, single]
      · simp [compiled, single]
    | error failure =>
      have refused (pattern : Pattern) : Pattern.compile text ≠ .ok pattern := fun compiled => by
        rw [readPattern_eq_ok.mpr compiled] at read
        cases read
      simp [refused]
  | _ => exact iff_of_true rfl trivial

theorem Node.rejectMatcher_eq_ok {sample : Node} {path : Path} :
    sample.rejectMatcher path = .ok () ↔ sample.isMatcher = false := by
  rw [Node.rejectMatcher]
  cases sample.isMatcher <;> simp

theorem Binary.numeral?_eq_none {format : BinaryFormat} {number : Binary format} :
    number.numeral? = none ↔ number.isFinite = false := by
  cases number <;> simp [Binary.numeral?, Binary.isFinite]

theorem Node.anyPart?_eq_none {collection : Node} :
    collection.anyPart? = none ↔
      ¬ ((∃ items, collection = .sequence items) ∨ ∃ members, collection = .mapping members) := by
  cases collection <;> simp [Node.anyPart?]

end ConsumerContract
