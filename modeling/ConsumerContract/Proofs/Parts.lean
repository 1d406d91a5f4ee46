/-
This file follows a successful compilation down into the tree. Whatever lies in a
tree that was compiled was compiled itself, for the same element or, inside an
array-contains matcher, as a body. So a mark for something that can not be encoded
is never passed over, wherever it lies and for whatever element the tree is meant.
-/

import ConsumerContract.Encoding.Declarations
import ConsumerContract.Proofs.Compiled
import ConsumerContract.Proofs.Path

namespace ConsumerContract.Node

section Succeeds

variable {limit depth : Nat} {element : Element} {path : Path} {repeated : Bool} {node : Node}
  {compiled : Compiled}

/-- A tree that was compiled for an element, so many levels below the whole. A part of a body lies
at a path from the root. -/
def Succeeds (element : Element) (limit depth : Nat) (node : Node) : Prop :=
  ∃ path repeated compiled, (element = .body → path.isEmpty = false) ∧
    compileAt limit element path repeated depth node = .ok compiled

/-- A tree that was compiled for the element or as a body. -/
def SucceedsIn (element : Element) (limit depth : Nat) (node : Node) : Prop :=
  node.Succeeds element limit depth ∨ node.Succeeds .body limit depth

theorem Succeeds.of_compileAt (rooted : element = .body → path.isEmpty = false)
    (success : compileAt limit element path repeated depth node = .ok compiled) :
    node.Succeeds element limit depth :=
  ⟨path, repeated, compiled, rooted, success⟩

theorem succeeds_of_compileItems (rooted : element = .body → path.isEmpty = false) {shared : Bool}
    {position : Nat} {declared : Declared} {items : List Node} {result : Declared × List Json}
    (success : compileItems limit element path shared depth position declared items = .ok result) :
    ∀ item ∈ items, item.Succeeds element limit (depth + 1) := by
  induction items generalizing position declared result with
  | nil => exact fun item member => absurd member List.not_mem_nil
  | cons item rest inductionHypothesis =>
    rw [compileItems_cons] at success
    simp only [bind_eq_ok] at success
    obtain ⟨compiled, first, joined, _, others, success, _⟩ := success
    have placed (body : element = .body) : (path.item shared position).isEmpty = false := by
      cases shared with
      | true => exact rooted body
      | false => exact Path.isEmpty_child (rooted body) (.index position)
    exact List.forall_mem_cons.mpr ⟨.of_compileAt placed first, inductionHypothesis success⟩

theorem succeeds_of_compileMembers (rooted : element = .body → path.isEmpty = false)
    {declared : Declared} {members : List (String × Node)}
    {result : Declared × List (String × Json)}
    (success : compileMembers limit element path depth declared members = .ok result) :
    ∀ entry ∈ members, entry.2.Succeeds element limit (depth + 1) := by
  induction members generalizing declared result with
  | nil => exact fun entry member => absurd member List.not_mem_nil
  | cons entry rest inductionHypothesis =>
    obtain ⟨key, member⟩ := entry
    rw [compileMembers_cons] at success
    simp only [bind_eq_ok] at success
    obtain ⟨compiled, first, joined, _, others, success, _⟩ := success
    refine List.forall_mem_cons.mpr ⟨.of_compileAt (fun body => ?_) first,
      inductionHypothesis success⟩
    exact Path.isEmpty_child (rooted body) (.key key)

theorem succeeds_of_compileVariants {position : Nat} {variants : List Node}
    {result : List Variant × List Json}
    (success : compileVariants limit path depth position variants = .ok result) :
    ∀ variant ∈ variants, variant.Succeeds .body limit (depth + 1) := by
  induction variants generalizing position result with
  | nil => exact fun variant member => absurd member List.not_mem_nil
  | cons variant rest inductionHypothesis =>
    cases first : compileAt limit .body .body false (depth + 1) variant with
    | error failure =>
      rw [compileVariants_cons_error first] at success
      cases success
    | ok compiled =>
      rw [compileVariants_cons_ok first, bind_eq_ok] at success
      obtain ⟨others, success, _⟩ := success
      exact List.forall_mem_cons.mpr
        ⟨.of_compileAt (fun _ => rfl) first, inductionHypothesis success⟩

/-- The trees directly below a part were compiled one level deeper. -/
theorem Succeeds.children (succeeds : node.Succeeds element limit depth) :
    ∀ child ∈ node.children, child.SucceedsIn element limit (depth + 1) := by
  obtain ⟨path, repeated, compiled, rooted, success⟩ := succeeds
  have within := depth_le_of_compileAt success
  cases node with
  | scalar value => exact fun child member => absurd member List.not_mem_nil
  | sequence items =>
    rw [compileAt_sequence within, bind_eq_ok] at success
    obtain ⟨result, success, _⟩ := success
    exact fun item member => Or.inl (succeeds_of_compileItems rooted success item member)
  | mapping members =>
    rw [compileAt_mapping within, bind_eq_ok] at success
    obtain ⟨result, success, _⟩ := success
    exact List.forall_mem_map.mpr fun entry member =>
      Or.inl (succeeds_of_compileMembers rooted success entry member)
  | matcher rules combine sample =>
    rw [compileAt_matcher within] at success
    simp only [bind_eq_ok] at success
    obtain ⟨_, _, _, _, inner, success, _⟩ := success
    exact List.forall_mem_singleton.mpr (Or.inl (.of_compileAt rooted success))
  | repetition collection min max =>
    cases shape : collection.anyPart? with
    | none =>
      rw [compileAt_repetition_none within shape] at success
      cases success
    | some step =>
      rw [compileAt_repetition within shape, bind_eq_ok] at success
      obtain ⟨inner, success, _⟩ := success
      refine List.forall_mem_singleton.mpr (Or.inl (.of_compileAt (fun body => ?_) success))
      exact Path.isEmpty_child (rooted body) step
  | arrayContains variants =>
    rw [compileAt_arrayContains within, bind_eq_ok] at success
    obtain ⟨result, success, _⟩ := success
    exact fun variant member => Or.inr (succeeds_of_compileVariants success variant member)
  | generator declaration sample =>
    rw [compileAt_generator within] at success
    simp only [bind_eq_ok] at success
    obtain ⟨_, _, inner, success, _⟩ := success
    exact List.forall_mem_singleton.mpr (Or.inl (.of_compileAt rooted success))
  | composite rule declaration sample =>
    rw [compileAt_composite within] at success
    simp only [bind_eq_ok] at success
    obtain ⟨_, _, _, _, _, _, inner, success, _⟩ := success
    exact List.forall_mem_singleton.mpr (Or.inl (.of_compileAt rooted success))
  | invalid description problem =>
    rw [compileAt_invalid within] at success
    cases success

/-! ### Invalid nodes -/

/-- The node is a mark for something that can not be encoded. -/
def IsInvalid : Node → Prop
  | invalid .. => True
  | _ => False

/-- There is no mark for something that can not be encoded in the tree. -/
def Valid (node : Node) : Prop :=
  ∀ part, node.Contains part → ¬ part.IsInvalid

theorem Valid.child {child : Node} (valid : node.Valid) (member : child ∈ node.children) :
    child.Valid :=
  fun part inside => valid part (.deeper member inside)

theorem not_valid_of_child {child : Node} (member : child ∈ node.children)
    (invalid : ¬ child.Valid) : ¬ node.Valid :=
  fun valid => invalid (valid.child member)

theorem not_valid_invalid (description : String) (problem : Option String) :
    ¬ (invalid description problem).Valid :=
  fun valid => valid _ (.itself _) trivial

theorem Succeeds.not_isInvalid (succeeds : node.Succeeds element limit depth) :
    ¬ node.IsInvalid := by
  obtain ⟨path, repeated, compiled, _, success⟩ := succeeds
  cases node with
  | invalid description problem =>
    rw [compileAt_invalid (depth_le_of_compileAt success)] at success
    cases success
  | _ => exact id

theorem SucceedsIn.valid (succeeds : node.SucceedsIn element limit depth) : node.Valid := by
  induction node using childInduction generalizing element depth with
  | node node inductionHypothesis =>
    refine forall_contains.mpr ?_
    rcases succeeds with succeeds | succeeds
    · exact ⟨succeeds.not_isInvalid, fun child member =>
        inductionHypothesis child member (succeeds.children child member)⟩
    · exact ⟨succeeds.not_isInvalid, fun child member =>
        inductionHypothesis child member (succeeds.children child member)⟩

end Succeeds

/-- What a tree is encoded as, if it can be encoded. -/
def encodedForm (element : Element) (node : Node) : EncodedElement :=
  let form := node.compiledForm element element.root false
  ⟨element, form.value, Declarations.ofEntries? element form.rules,
    Declarations.ofEntries? element form.generators⟩

theorem encode_eq (node : Node) (element : Element) (maxDepth : Nat) :
    node.encode element maxDepth =
      node.compile element element.root false maxDepth >>= fun compiled =>
        .ok ⟨element, compiled.value, Declarations.ofEntries? element compiled.rules,
          Declarations.ofEntries? element compiled.generators⟩ :=
  rfl

theorem compile_of_encode {node : Node} {element : Element} {maxDepth : Nat}
    {encoded : EncodedElement} (success : node.encode element maxDepth = .ok encoded) :
    node.compile element element.root false maxDepth =
      .ok (node.compiledForm element element.root false) := by
  rw [encode_eq, bind_eq_ok] at success
  obtain ⟨compiled, success, -⟩ := success
  rw [success, compilesToForm node success]

theorem encode_of_compile {node : Node} {element : Element} {maxDepth : Nat} {compiled : Compiled}
    (success : node.compile element element.root false maxDepth = .ok compiled) :
    node.encode element maxDepth = .ok (node.encodedForm element) := by
  rw [encode_eq, success, compilesToForm node success]
  rfl

theorem eq_encodedForm_of_encode {node : Node} {element : Element} {maxDepth : Nat}
    {encoded : EncodedElement} (success : node.encode element maxDepth = .ok encoded) :
    encoded = node.encodedForm element := by
  rw [encode_of_compile (compile_of_encode success)] at success
  exact (Except.ok.inj success).symm

theorem value_of_encode {node : Node} {element : Element} {maxDepth : Nat}
    {encoded : EncodedElement} (success : node.encode element maxDepth = .ok encoded) :
    encoded.value = node.stripped := by
  rw [eq_encodedForm_of_encode success]
  rfl

/-- A tree that was encoded holds no mark for something that can not be encoded. -/
theorem valid_of_encode {node : Node} {element : Element} {maxDepth : Nat}
    {encoded : EncodedElement} (success : node.encode element maxDepth = .ok encoded) :
    node.Valid := by
  have rooted : element = .body → element.root.isEmpty = false := fun body => by rw [body]; rfl
  exact SucceedsIn.valid (Or.inl (Succeeds.of_compileAt rooted (compile_of_encode success)))

end ConsumerContract.Node
