/-
This file says where the nodes of a tree lie. An address is a list of steps below
the root of the tree. A wrapper and its sample have one address, and so have a
repeated collection and its elements, because a step to any element of it has
been made already. The variants of an array-contains matcher are trees of their
own: what is declared in them is not declared at an address of the tree around
them, but a failure in one of them is reported there, below its index.
-/

import ConsumerContract.Encoding.Compiled
import ConsumerContract.Proofs.Tree

namespace ConsumerContract.Node

/-- A node one level below another one, with the steps between them. The flags say whether the
nodes are repeated collections. -/
inductive Below (element : Element) : Bool → Node → List Step → Bool → Node → Prop where
  | sharedItem {repeated : Bool} {items : List Node} {item : Node}
      (shared : (repeated || element.sharesItems) = true) (member : item ∈ items) :
      Below element repeated (.sequence items) [] false item
  | item {repeated : Bool} {items : List Node} {item : Node} {position : Nat}
      (apart : (repeated || element.sharesItems) = false) (found : items[position]? = some item) :
      Below element repeated (.sequence items) [.index position] false item
  | member {repeated : Bool} {members : List (String × Node)} {key : String} {member : Node}
      (found : (key, member) ∈ members) :
      Below element repeated (.mapping members) [.key key] false member
  | sample {repeated : Bool} {node sample : Node} (wrapped : node.sample? = some sample) :
      Below element repeated node [] false sample
  | collection {repeated : Bool} {collection : Node} {step : Step} {min max : Option UInt64}
      (shape : collection.anyPart? = some step) :
      Below element repeated (.repetition collection min max) [step] true collection

/-- A node of a tree outside of variants, with its address and the levels above it. -/
inductive Reaches (element : Element) : Bool → Node → List Step → Nat → Node → Prop where
  | itself (repeated : Bool) (node : Node) : Reaches element repeated node [] 0 node
  | deeper {repeated flag : Bool} {node child part : Node} {front steps : List Step} {level : Nat}
      (edge : Below element repeated node front flag child)
      (inside : Reaches element flag child steps level part) :
      Reaches element repeated node (front ++ steps) (level + 1) part

/-- A node anywhere in the tree of a body, with the address at which its failures are
reported and the levels above it. -/
inductive Lies : Bool → Node → List Step → Nat → Node → Prop where
  | outside {repeated : Bool} {node part : Node} {steps : List Step} {level : Nat}
      (reached : Reaches .body repeated node steps level part) : Lies repeated node steps level part
  | variant {repeated : Bool} {node variant part : Node} {variants : List Node}
      {position level depth : Nat} {steps rest : List Step}
      (reached : Reaches .body repeated node steps level (.arrayContains variants))
      (found : variants[position]? = some variant) (inside : Lies false variant rest depth part) :
      Lies repeated node (steps ++ .index position :: rest) (level + 1 + depth) part

theorem Below.mem_children {element : Element} {repeated flag : Bool} {node child : Node}
    {front : List Step} (edge : Below element repeated node front flag child) :
    child ∈ node.children := by
  cases edge with
  | sharedItem shared member => exact member
  | item apart found => exact List.mem_of_getElem? found
  | member found => exact List.mem_map_of_mem (f := Prod.snd) found
  | sample wrapped => exact mem_children_of_sample? wrapped
  | collection shape => exact List.mem_singleton.mpr rfl

theorem Reaches.contains {element : Element} {repeated : Bool} {node part : Node}
    {steps : List Step} {level : Nat} (reached : Reaches element repeated node steps level part) :
    node.Contains part := by
  induction reached with
  | itself repeated node => exact .itself node
  | deeper edge inside inductionHypothesis => exact .deeper edge.mem_children inductionHypothesis

theorem Contains.trans {node middle part : Node} (first : node.Contains middle)
    (second : middle.Contains part) : node.Contains part := by
  induction first with
  | itself node => exact second
  | deeper member inside inductionHypothesis => exact .deeper member (inductionHypothesis second)

theorem Lies.contains {repeated : Bool} {node part : Node} {steps : List Step} {level : Nat}
    (lies : Lies repeated node steps level part) : node.Contains part := by
  induction lies with
  | outside reached => exact reached.contains
  | variant reached found inside inductionHypothesis =>
    exact reached.contains.trans (.deeper (List.mem_of_getElem? found) inductionHypothesis)

/-- What lies in a tree below a node lies below that node. -/
theorem Lies.deeper {repeated flag : Bool} {node child part : Node} {front steps : List Step}
    {level : Nat} (edge : Below .body repeated node front flag child)
    (lies : Lies flag child steps level part) :
    Lies repeated node (front ++ steps) (level + 1) part := by
  cases lies with
  | outside reached => exact .outside (.deeper edge reached)
  | variant reached found inside =>
    rw [← List.append_assoc, Nat.add_right_comm _ _ 1, Nat.add_right_comm _ 1 1]
    exact .variant (.deeper edge reached) found inside

theorem Below.height_lt {element : Element} {repeated flag : Bool} {node child : Node}
    {front : List Step} (edge : Below element repeated node front flag child) :
    child.height < node.height :=
  height_le.mp (Nat.le_refl _) child edge.mem_children

/-- A node lies at most as deep as the tree is high. -/
theorem Reaches.level_le {element : Element} {repeated : Bool} {node part : Node}
    {steps : List Step} {level : Nat} (reached : Reaches element repeated node steps level part) :
    level + part.height ≤ node.height := by
  induction reached with
  | itself repeated node => exact Nat.le_of_eq (Nat.zero_add _)
  | deeper edge inside inductionHypothesis =>
    have lower := edge.height_lt
    omega

theorem Lies.level_le {repeated : Bool} {node part : Node} {steps : List Step} {level : Nat}
    (lies : Lies repeated node steps level part) : level + part.height ≤ node.height := by
  induction lies with
  | outside reached => exact reached.level_le
  | variant reached found inside inductionHypothesis =>
    have above := reached.level_le
    have lower := height_le.mp (Nat.le_refl (Node.arrayContains _).height) _
      (List.mem_of_getElem? found)
    omega

end ConsumerContract.Node
