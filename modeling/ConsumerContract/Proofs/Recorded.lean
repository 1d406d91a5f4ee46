/-
This file says whose rules are kept where several nodes lie at one address. The
rules of a wrapper are recorded after those of its sample and take their place,
so the outermost ones are kept. A matcher that is the direct sample of another
one is rejected for this reason, but a generator between the two hides the inner
matcher from that check, and then its rules are lost without a failure. It is
shown that this is the only way to lose rules, as long as no two elements of a
repeated sequence share an address.
-/

import ConsumerContract.Proofs.Acceptance

namespace ConsumerContract

/-! ### The last entry at an address -/

namespace Entries

/-- The last declaration that was recorded with these steps. -/
def lastAt {α : Type} (steps : List Step) : List (List Step × α) → Option α
  | [] => none
  | (other, declaration) :: rest =>
    (lastAt steps rest).or (if other = steps then some declaration else none)

section LastAt

variable {α : Type} {steps : List Step} {listed : List (List Step × α)}

theorem lastAt_append (first second : List (List Step × α)) :
    lastAt steps (first ++ second) = (lastAt steps second).or (lastAt steps first) := by
  induction first with
  | nil => exact (Option.or_none).symm
  | cons entry rest inductionHypothesis =>
    rw [List.cons_append, lastAt, lastAt, inductionHypothesis, Option.or_assoc]

theorem lastAt_eq_none (absent : ∀ entry ∈ listed, entry.1 ≠ steps) :
    lastAt steps listed = none := by
  induction listed with
  | nil => rfl
  | cons entry rest inductionHypothesis =>
    obtain ⟨different, absentRest⟩ := List.forall_mem_cons.mp absent
    rw [lastAt, inductionHypothesis absentRest, if_neg different]
    rfl

theorem lastAt_concat_self (declaration : α) :
    lastAt steps (listed ++ [(steps, declaration)]) = some declaration := by
  rw [lastAt_append, lastAt, if_pos rfl]
  rfl

theorem lastAt_concat_of_ne {other : List Step} (different : other ≠ steps) (declaration : α) :
    lastAt steps (listed ++ [(other, declaration)]) = lastAt steps listed := by
  rw [lastAt_append, lastAt, if_neg different]
  rfl

theorem lastAt_moved (step : Step) :
    lastAt (step :: steps) (listed.map fun (steps, declaration) => (step :: steps, declaration)) =
      lastAt steps listed := by
  induction listed with
  | nil => rfl
  | cons entry rest inductionHypothesis =>
    rw [List.map_cons, lastAt, lastAt, inductionHypothesis]
    simp only [List.cons.injEq, true_and]

theorem lastAt_moved_of_ne {step other : Step} (different : step ≠ other) :
    lastAt (other :: steps) (listed.map fun (steps, declaration) => (step :: steps, declaration)) =
      none := by
  refine lastAt_eq_none fun entry member => ?_
  obtain ⟨inner, -, rfl⟩ := List.mem_map.mp member
  exact fun same => different (List.cons.inj same).1

/-- What is found at the text of some steps is the last entry with these steps, if no other
entry has this text. -/
theorem find?_ofList_of_text {path : Path}
    (alone : ∀ entry ∈ listed, (path.ofSteps entry.1).text = (path.ofSteps steps).text →
      entry.1 = steps) :
    Keyed.find? (path.ofSteps steps).text (Keyed.ofList (listed.map fun (steps, declaration) =>
      ((path.ofSteps steps).text, declaration))) = lastAt steps listed := by
  rw [Keyed.find?_ofList]
  induction listed with
  | nil => rfl
  | cons entry rest inductionHypothesis =>
    obtain ⟨here, others⟩ := List.forall_mem_cons.mp alone
    rw [List.map_cons, List.reverse_cons, Keyed.find?_append, inductionHypothesis others, lastAt]
    congr 1
    rw [Keyed.find?, Keyed.find?_nil]
    by_cases same : entry.1 = steps
    · rw [if_pos same, if_pos (congrArg (fun steps => (path.ofSteps steps).text) same.symm)]
    · rw [if_neg same, if_neg fun sameText => same (here sameText.symm)]

theorem find?_ofList_text {path : Path} (rooted : path.isEmpty = false) :
    Keyed.find? (path.ofSteps steps).text (Keyed.ofList (listed.map fun (steps, declaration) =>
      ((path.ofSteps steps).text, declaration))) = lastAt steps listed :=
  find?_ofList_of_text fun _ _ sameText =>
    Path.ofSteps_injective rooted (congrArg Path.mk sameText)

/-- Where parts are behind different keys, what is found behind a key is what its part lists. -/
theorem lastAt_flatMap {β : Type} (parts : β → List (List Step × α)) {members : List (String × β)}
    (distinct : (Keyed.keys members).Nodup) (key : String) (rest : List Step) :
    lastAt (.key key :: rest) (members.flatMap fun (other, member) =>
        (parts member).map fun (steps, declaration) => (.key other :: steps, declaration)) =
      (Keyed.find? key members).bind fun member => lastAt rest (parts member) := by
  induction members with
  | nil => rfl
  | cons entry others inductionHypothesis =>
    obtain ⟨other, member⟩ := entry
    obtain ⟨fresh, distinctRest⟩ := List.nodup_cons.mp distinct
    rw [List.flatMap_cons, lastAt_append, inductionHypothesis distinctRest, Keyed.find?]
    by_cases same : key = other
    · rw [if_pos same, same, Keyed.find?_eq_none.mpr fresh]
      exact lastAt_moved _
    · have apart : Step.key other ≠ .key key := fun sameStep => same (Step.key.inj sameStep).symm
      rw [if_neg same, lastAt_moved_of_ne apart, Option.or_none]

end LastAt

/-- The entries of one of the two sorts. -/
structure Listing (α : Type) where
  listed : Entries → List (List Step × α)
  listed_empty : listed empty = []
  listed_append (first second : Entries) :
    listed (first.append second) = listed first ++ listed second
  listed_below (step : Step) (entries : Entries) : listed (entries.below step) =
    (listed entries).map fun (steps, declaration) => (step :: steps, declaration)
  recorded {entries : Entries} {entry : List Step × α} (member : entry ∈ listed entries) :
    ∃ declaration, entries.Records entry.1 declaration

namespace Listing

/-- All rules. -/
def rules : Listing RuleSet where
  listed := Entries.rules
  listed_empty := rfl
  listed_append _ _ := rfl
  listed_below _ _ := rfl
  recorded {_ entry} member := ⟨.rules entry.2, member⟩

/-- All generators. -/
def generators : Listing Generator where
  listed := Entries.generators
  listed_empty := rfl
  listed_append _ _ := rfl
  listed_below _ _ := rfl
  recorded {_ entry} member := ⟨.generator entry.2, member⟩

end Listing

end Entries

/-! ### Rules of an encoded element -/

/-- The declaration at a path. One that stands by itself is at the empty path. -/
def Declarations.at? {α : Type} (path : Path) : Declarations α → Option α
  | bare declaration => if path.isEmpty then some declaration else none
  | byPath entries => Keyed.find? path.text entries

/-- The rules that an encoded element has at a path. -/
def EncodedElement.rulesAt? (encoded : EncodedElement) (path : Path) : Option RuleSet :=
  encoded.rules.bind (Declarations.at? path)

theorem Declarations.bind_ofEntries? {α : Type} (element : Element) (entries : Keyed α)
    (path : Path) :
    (Declarations.ofEntries? element entries).bind (Declarations.at? path) =
      Keyed.find? path.text entries := by
  match entries with
  | [] => rfl
  | [(text, declaration)] =>
    rw [ofEntries?]
    split
    · rename_i bare
      simp only [Option.bind_some, at?, Path.isEmpty, String.isEmpty_iff, Keyed.find?, bare.2]
    · rfl
  | _ :: _ :: _ => rfl

namespace Node

theorem rulesAt?_encodedForm (element : Element) (node : Node) (path : Path) :
    (node.encodedForm element).rulesAt? path =
      Keyed.find? path.text ((node.entries element false).declared element.root).rules :=
  Declarations.bind_ofEntries? element _ path

/-- What an encoded body has at an address is the last entry with these steps. -/
theorem rulesAt?_encode {node : Node} {maxDepth : Nat} {encoded : EncodedElement}
    (success : node.encode .body maxDepth = .ok encoded) (steps : List Step) :
    encoded.rulesAt? (.ofSteps .body steps) =
      Entries.lastAt steps (node.entries .body false).rules := by
  rw [eq_encodedForm_of_encode success, rulesAt?_encodedForm]
  exact Entries.find?_ofList_text rfl

/-! ### Addresses that nothing shares -/

/-- Every repeated collection is a mapping or a sequence of at most one element. -/
def RepeatsSingly (node : Node) : Prop :=
  ∀ collection min max, node.Contains (.repetition collection min max) →
    (∃ members, collection = .mapping members) ∨
      ∃ items, collection = .sequence items ∧ items.length ≤ 1

theorem repeatsSingly_iff {node : Node} :
    node.RepeatsSingly ↔
      (∀ collection min max, node = .repetition collection min max →
        (∃ members, collection = .mapping members) ∨
          ∃ items, collection = .sequence items ∧ items.length ≤ 1) ∧
        ∀ child ∈ node.children, child.RepeatsSingly := by
  constructor
  · intro single
    refine ⟨?_, fun child member collection min max inside =>
      single collection min max (.deeper member inside)⟩
    rintro collection min max rfl
    exact single collection min max (.itself _)
  · rintro ⟨here, below⟩ collection min max inside
    cases inside with
    | itself => exact here collection min max rfl
    | deeper member inside => exact below _ member collection min max inside

/-- A node that is no repetition adds no condition. -/
theorem repeatsSingly_of_children {node : Node}
    (other : ∀ collection min max, node ≠ .repetition collection min max)
    (below : ∀ child ∈ node.children, child.RepeatsSingly) : node.RepeatsSingly :=
  repeatsSingly_iff.mpr
    ⟨fun collection min max same => absurd same (other collection min max), below⟩

theorem repeatsSingly_scalar (value : Scalar) : (scalar value).RepeatsSingly := by
  refine repeatsSingly_of_children (fun collection min max same => ?_) fun child member =>
    absurd member List.not_mem_nil
  cases same

theorem repeatsSingly_sequence {items : List Node} (each : ∀ item ∈ items, item.RepeatsSingly) :
    (sequence items).RepeatsSingly :=
  repeatsSingly_of_children (by rintro _ _ _ same; cases same) each

theorem repeatsSingly_mapping {members : List (String × Node)}
    (each : ∀ entry ∈ members, entry.2.RepeatsSingly) : (mapping members).RepeatsSingly :=
  repeatsSingly_of_children (by rintro _ _ _ same; cases same) (List.forall_mem_map.mpr each)

theorem repeatsSingly_repetition {item : Node} {min max : Option UInt64}
    (single : item.RepeatsSingly) : (repetition (sequence [item]) min max).RepeatsSingly := by
  refine repeatsSingly_iff.mpr ⟨?_, List.forall_mem_singleton.mpr
    (repeatsSingly_sequence (List.forall_mem_singleton.mpr single))⟩
  rintro collection min max same
  cases same
  exact Or.inr ⟨_, rfl, Nat.le_refl 1⟩

theorem repeatsSingly_wrapper {node sample : Node} (wrapped : node.sample? = some sample)
    (single : sample.RepeatsSingly) : node.RepeatsSingly := by
  cases node with
  | matcher rules combine inner =>
    obtain rfl := Option.some.inj wrapped
    exact repeatsSingly_of_children (by rintro _ _ _ same; cases same)
      (List.forall_mem_singleton.mpr single)
  | generator declaration inner =>
    obtain rfl := Option.some.inj wrapped
    exact repeatsSingly_of_children (by rintro _ _ _ same; cases same)
      (List.forall_mem_singleton.mpr single)
  | composite rule declaration inner =>
    obtain rfl := Option.some.inj wrapped
    exact repeatsSingly_of_children (by rintro _ _ _ same; cases same)
      (List.forall_mem_singleton.mpr single)
  | _ => cases wrapped

/-- Whether the node is no repetition or one of a mapping or of at most one element. -/
def hasSingleItem : Node → Bool
  | repetition (mapping _) _ _ => true
  | repetition (sequence items) _ _ => decide (items.length ≤ 1)
  | repetition .. => false
  | _ => true

theorem hasSingleItem_repetition {collection : Node} {min max : Option UInt64} :
    (repetition collection min max).hasSingleItem = true ↔
      (∃ members, collection = .mapping members) ∨
        ∃ items, collection = .sequence items ∧ items.length ≤ 1 := by
  cases collection <;> simp [hasSingleItem]

instance (node : Node) : Decidable node.RepeatsSingly :=
  decidable_of_iff (∀ part, node.Contains part → part.hasSingleItem = true)
    ⟨fun all collection min max inside => hasSingleItem_repetition.mp (all _ inside),
      fun single part inside => by
        cases part with
        | repetition collection min max =>
          exact hasSingleItem_repetition.mpr (single collection min max inside)
        | _ => rfl⟩

/-- The same, where the tree itself may be the repeated collection. -/
def SharesNothing (repeated : Bool) (node : Node) : Prop :=
  node.RepeatsSingly ∧ (repeated = true → ∀ items, node = .sequence items → items.length ≤ 1)

theorem SharesNothing.child {repeated flag : Bool} {node child : Node} {front : List Step}
    (shares : SharesNothing repeated node) (edge : Below .body repeated node front flag child) :
    SharesNothing flag child := by
  have single := (repeatsSingly_iff.mp shares.1).2 child edge.mem_children
  refine ⟨single, fun isRepeated items same => ?_⟩
  cases edge with
  | collection shape =>
    rcases shares.1 _ _ _ (.itself _) with ⟨members, mapped⟩ | ⟨items', listed, short⟩
    · cases mapped.symm.trans same
    · cases listed.symm.trans same
      exact short
  | _ => cases isRepeated

/-- An element that shares its address with the sequence is the only one. -/
theorem SharesNothing.eq_singleton {repeated : Bool} {items : List Node} {item : Node}
    (shares : SharesNothing repeated (.sequence items))
    (shared : (repeated || Element.body.sharesItems) = true) (member : item ∈ items) :
    items = [item] := by
  have isRepeated : repeated = true := (Bool.or_eq_true_iff.mp shared).resolve_right (by decide)
  have short := shares.2 isRepeated items rfl
  match items, short, member with
  | [other], _, member => rw [List.mem_singleton.mp member]

/-! ### Entries of parts -/

theorem lastAt_entriesOfItems (position : Nat) {offset : Nat} {items : List Node} {item : Node}
    (found : items[offset]? = some item) (rest : List Step) :
    Entries.lastAt (.index (position + offset) :: rest)
        (entriesOfItems .body false position items).rules =
      Entries.lastAt rest (item.entries .body false).rules := by
  induction items generalizing position offset with
  | nil => cases found
  | cons first others inductionHypothesis =>
    have parts : (entriesOfItems .body false position (first :: others)).rules =
        ((first.entries .body false).below (.index position)).rules ++
          (entriesOfItems .body false (position + 1) others).rules := rfl
    rw [parts, Entries.lastAt_append]
    cases offset with
    | zero =>
      obtain rfl := Option.some.inj found
      have later : Entries.lastAt (.index (position + 0) :: rest)
          (entriesOfItems .body false (position + 1) others).rules = none := by
        refine Entries.lastAt_eq_none fun entry member same => ?_
        have recorded : (entriesOfItems .body false (position + 1) others).Records entry.1
            (.rules entry.2) := member
        obtain ⟨offset, -, behind, head⟩ := entriesOfItems_heads recorded
        have samePosition := Step.index.inj (List.cons.inj (same.symm.trans head)).1
        omega
      rw [later]
      exact Entries.lastAt_moved _
    | succ offset =>
      have earlier : Entries.lastAt (.index (position + (offset + 1)) :: rest)
          ((first.entries .body false).below (.index position)).rules = none :=
        Entries.lastAt_moved_of_ne fun same => by
          have samePosition := Step.index.inj same
          omega
      rw [earlier, Option.or_none, ← inductionHypothesis (position + 1) found, Nat.add_right_comm,
        Nat.add_assoc]

theorem listed_entriesOfMembers {α : Type} (listing : Entries.Listing α) (element : Element)
    (members : List (String × Node)) :
    listing.listed (entriesOfMembers element members) = members.flatMap fun (key, member) =>
      (listing.listed (member.entries element false)).map fun (steps, declaration) =>
        (.key key :: steps, declaration) := by
  induction members with
  | nil => exact listing.listed_empty
  | cons entry others inductionHypothesis =>
    rw [entriesOfMembers, listing.listed_append, listing.listed_below, inductionHypothesis,
      List.flatMap_cons]

theorem lastAt_entriesOfMembers {α : Type} (listing : Entries.Listing α) (element : Element)
    {members : List (String × Node)} (distinct : (Keyed.keys members).Nodup) (key : String)
    (rest : List Step) :
    Entries.lastAt (.key key :: rest) (listing.listed (entriesOfMembers element members)) =
      (Keyed.find? key members).bind fun member =>
        Entries.lastAt rest (listing.listed (member.entries element false)) := by
  rw [listed_entriesOfMembers]
  exact Entries.lastAt_flatMap (fun member : Node => listing.listed (member.entries element false))
    distinct key rest

/-! ### Outermost rules -/

/-- What a node declares itself is recorded last of all that is declared at its address. -/
theorem lastAt_own {repeated : Bool} {node : Node} {ruleSet : RuleSet}
    (own : node.ownRules? .body = some ruleSet) :
    Entries.lastAt [] (node.entries .body repeated).rules = some ruleSet := by
  cases node with
  | matcher rules combine sample =>
    obtain rfl := Option.some.inj own
    exact Entries.lastAt_concat_self _
  | repetition collection min max =>
    obtain rfl := Option.some.inj own
    exact Entries.lastAt_concat_self _
  | arrayContains variants =>
    obtain rfl := Option.some.inj own
    exact Entries.lastAt_concat_self _
  | composite rule declaration sample =>
    obtain rfl := Option.some.inj own
    exact Entries.lastAt_concat_self _
  | _ => cases own

/-- What is recorded below a node stays, unless the node has rules at the same address. -/
theorem lastAt_child {repeated flag : Bool} {node child : Node} {front : List Step}
    (ordered : node.KeysOrdered) (shares : SharesNothing repeated node)
    (edge : Below .body repeated node front flag child) {rest : List Step}
    (free : front ++ rest = [] → node.ownRules? .body = none) :
    Entries.lastAt (front ++ rest) (node.entries .body repeated).rules =
      Entries.lastAt rest (child.entries .body flag).rules := by
  cases edge with
  | sharedItem shared member =>
    obtain rfl := shares.eq_singleton shared member
    rw [entries, shared]
    exact congrArg (Entries.lastAt rest) (List.append_nil _)
  | item apart found =>
    have placed := lastAt_entriesOfItems 0 found rest
    rw [Nat.zero_add] at placed
    rw [entries, apart]
    exact placed
  | member found =>
    refine (lastAt_entriesOfMembers .rules .body ordered.keys _ rest).trans ?_
    rw [(Keyed.find?_eq_some ordered.keys).mpr found]
    rfl
  | sample wrapped =>
    have recorded (declared : RuleSet) (own : node.ownRules? .body = some declared) :
        [] ≠ [] ++ rest := fun here => by
      rw [free here.symm] at own
      cases own
    cases node with
    | matcher rules combine sample =>
      obtain rfl := Option.some.inj wrapped
      exact Entries.lastAt_concat_of_ne (recorded _ rfl) _
    | generator declaration sample =>
      obtain rfl := Option.some.inj wrapped
      rfl
    | composite rule declaration sample =>
      obtain rfl := Option.some.inj wrapped
      exact Entries.lastAt_concat_of_ne (recorded _ rfl) _
    | _ => cases wrapped
  | collection shape =>
    rw [entries_repetition _ _ shape]
    exact (Entries.lastAt_concat_of_ne (List.cons_ne_nil _ _).symm _).trans
      (Entries.lastAt_moved _)

/-- The rules of a node are kept if nothing that has rules is wrapped around it. -/
theorem lastAt_of_outermost {repeated : Bool} {node part : Node} {steps : List Step} {level : Nat}
    (reached : Reaches .body repeated node steps level part) (ordered : node.KeysOrdered)
    (shares : SharesNothing repeated node) {ruleSet : RuleSet}
    (own : part.ownRules? .body = some ruleSet)
    (outermost : ∀ outer level, Reaches .body repeated node steps level outer →
      part ∈ outer.layers → outer.ownRules? .body = none) :
    Entries.lastAt steps (node.entries .body repeated).rules = some ruleSet := by
  induction reached with
  | itself repeated node => exact lastAt_own own
  | deeper edge inside inductionHypothesis =>
    rename_i node child part front steps level
    have free : front ++ steps = [] → node.ownRules? .body = none := by
      intro here
      cases edge with
      | sharedItem shared member => rfl
      | sample wrapped =>
        obtain rfl : steps = [] := here
        exact outermost node 0 (.itself _ node)
          (mem_layers.mpr ⟨child, wrapped, mem_layers_of_reaches inside⟩)
      | item apart found => cases here
      | member found => cases here
      | collection shape => cases here
    rw [lastAt_child ordered shares edge free]
    exact inductionHypothesis (ordered.child edge.mem_children) (shares.child edge) own
      fun outer level reached member => outermost outer (level + 1) (.deeper edge reached) member

/-! ### Rules inside rules -/

theorem isMatcher_of_ownRules {element : Element} {node : Node} {ruleSet : RuleSet}
    (own : node.ownRules? element = some ruleSet) : node.isMatcher = true := by
  cases node with
  | matcher => rfl
  | repetition => rfl
  | arrayContains => rfl
  | composite => rfl
  | _ => cases own

/-- A sample with layers that is not a matcher is a generator. -/
theorem eq_generator_of_mem_layers {sample part : Node} (plain : sample.isMatcher = false)
    (member : part ∈ sample.layers) :
    ∃ declaration inner, sample = .generator declaration inner := by
  cases sample with
  | generator declaration inner => exact ⟨declaration, inner, rfl⟩
  | matcher => cases plain
  | composite => cases plain
  | _ => exact absurd member List.not_mem_nil

/-- Between a sound node with rules and a matcher in its layers there is a generator. -/
theorem sample_eq_generator {outer part : Node} (sound : outer.IsSound)
    (outerMatches : outer.isMatcher = true) (partMatches : part.isMatcher = true)
    (member : part ∈ outer.layers) :
    ∃ declaration inner, outer.sample? = some (.generator declaration inner) ∧
      (part = inner ∨ part ∈ inner.layers) := by
  obtain ⟨sample, wrapped, inside⟩ := mem_layers.mp member
  have plain := sound.sample_isMatcher outerMatches wrapped
  have deeper : part ∈ sample.layers := by
    rcases inside with rfl | deeper
    · rw [plain] at partMatches
      cases partMatches
    · exact deeper
  obtain ⟨declaration, inner, rfl⟩ := eq_generator_of_mem_layers plain deeper
  exact ⟨declaration, inner, wrapped, List.mem_cons.mp deeper⟩

/-- In a well-formed tree, only a generator that is the sample of a matcher can keep two nodes
with rules apart at one address. -/
theorem eq_matcher_generator {outer part : Node} (wellFormed : outer.WellFormed)
    {outerRules partRules : RuleSet} (outerOwn : outer.ownRules? .body = some outerRules)
    (partOwn : part.ownRules? .body = some partRules) (member : part ∈ outer.layers) :
    ∃ rules combine declaration,
      outer = .matcher rules combine (.generator declaration part) := by
  have partMatches := isMatcher_of_ownRules partOwn
  obtain ⟨declaration, inner, wrapped, inside⟩ := sample_eq_generator (wellFormed outer (.itself _))
    (isMatcher_of_ownRules outerOwn) partMatches member
  cases outer with
  | matcher rules combine sample =>
    obtain rfl := Option.some.inj wrapped
    rcases inside with rfl | deeper
    · exact ⟨rules, combine, declaration, rfl⟩
    · -- Whatever wraps the part here would be a second generator inside the first one.
      have contained : (Node.matcher rules combine (.generator declaration inner)).Contains inner :=
        .deeper List.mem_cons_self (.deeper List.mem_cons_self (.itself _))
      have alone : (Node.generator declaration inner).GeneratesAlone :=
        (wellFormed _ (.deeper List.mem_cons_self (.itself _))).2
      have silent := alone inner List.mem_cons_self
      have innerMatches : inner.isMatcher = true := by
        cases plain : inner.isMatcher with
        | true => rfl
        | false =>
          obtain ⟨second, core, rfl⟩ := eq_generator_of_mem_layers plain deeper
          cases silent
      obtain ⟨second, core, wrapped', -⟩ := sample_eq_generator (wellFormed inner contained)
        innerMatches partMatches deeper
      have bears := alone (.generator second core)
        (List.mem_cons_of_mem _ (mem_layers.mpr ⟨_, wrapped', Or.inl rfl⟩))
      cases bears
  | composite rule own sample =>
    obtain rfl := Option.some.inj wrapped
    have alone := (wellFormed _ (.itself _)).2.2.2 _ List.mem_cons_self
    cases alone
  | generator own sample => cases outerOwn
  | _ => cases wrapped

/-- The rules of a node are found at its path unless it is the sample of a generator that is the
sample of a matcher with other rules. Nothing else that is accepted loses rules, as long as no
two elements of a repeated sequence share a path. -/
theorem rulesAt?_eq_own_iff (tree : Ordered) (single : tree.node.RepeatsSingly) (maxDepth : Nat)
    (encoded : EncodedElement) (success : tree.node.encode .body maxDepth = .ok encoded)
    (steps : List Step) (level : Nat) (part : Node) (ruleSet : RuleSet)
    (reached : Reaches .body false tree.node steps level part)
    (own : part.ownRules? .body = some ruleSet) :
    encoded.rulesAt? (.ofSteps .body steps) = some ruleSet ↔
      ∀ rules combine declaration level',
        Reaches .body false tree.node steps level'
            (.matcher rules combine (.generator declaration part)) →
          (⟨rules, combine⟩ : RuleSet) = ruleSet := by
  obtain ⟨compiled, passed⟩ := encode_ok_iff.mp ⟨encoded, success⟩
  have wellFormed := (Passes.of_compileAt rfl passed).wellFormed.2
  have shares : SharesNothing false tree.node := ⟨single, nofun⟩
  have inside {outer : Node} {level : Nat}
      (reached : Reaches .body false tree.node steps level outer) :
      outer.WellFormed := fun inner contained =>
    wellFormed inner (reached.contains.trans contained)
  rw [rulesAt?_encode success]
  -- A matcher around a generator has no third node with rules around it.
  have kept {rules : List Rule} {combine : Option Combination} {declaration : Generator}
      {level' : Nat} (around : Reaches .body false tree.node steps level'
        (.matcher rules combine (.generator declaration part))) :
      Entries.lastAt steps (tree.node.entries .body false).rules = some ⟨rules, combine⟩ := by
    refine lastAt_of_outermost around tree.ordered shares rfl ?_
    intro outer level outerReached member
    cases outerOwn : outer.ownRules? .body with
    | none => rfl
    | some outerRules =>
      obtain ⟨rules', combine', second, rfl⟩ :=
        eq_matcher_generator (inside outerReached) outerOwn rfl member
      have alone := (inside outerReached _ (.deeper List.mem_cons_self (.itself _))).2
      cases alone (.generator declaration part) (List.mem_cons_of_mem _ List.mem_cons_self)
  constructor
  · intro recorded rules combine declaration level' around
    exact Option.some.inj ((kept around).symm.trans recorded)
  · intro same
    by_cases covered : ∃ rules combine declaration level',
        Reaches .body false tree.node steps level'
          (.matcher rules combine (.generator declaration part))
    · obtain ⟨rules, combine, declaration, level', around⟩ := covered
      rw [kept around, same rules combine declaration level' around]
    · refine lastAt_of_outermost reached tree.ordered shares own ?_
      intro outer level outerReached member
      cases outerOwn : outer.ownRules? .body with
      | none => rfl
      | some outerRules =>
        obtain ⟨rules, combine, declaration, rfl⟩ :=
          eq_matcher_generator (inside outerReached) outerOwn own member
        exact absurd ⟨rules, combine, declaration, level, outerReached⟩ covered

/-- A matcher inside a generator keeps its rules at the path of the one element of a repeated
sequence. -/
theorem rulesAt?_eq_own_iff_of_ids :
    let part := Node.matcher [.sameType] none (.string "x")
    let items := Node.sequence [.generator (.uuid none) part]
    let tree : Ordered := ⟨.mapping [("ids", .repetition items (some 1) none)], by decide⟩
    tree.node.RepeatsSingly ∧
      ∃ encoded, tree.node.encode .body 5 = .ok encoded ∧
        encoded.rulesAt? (.ofSteps .body [.key "ids", .anyItem]) = some ⟨[.sameType], none⟩ ∧
          ∀ rules combine declaration level,
            Reaches .body false tree.node [.key "ids", .anyItem] level
                (.matcher rules combine (.generator declaration part)) →
              (⟨rules, combine⟩ : RuleSet) = ⟨[.sameType], none⟩ := by
  intro part items tree
  have single : tree.node.RepeatsSingly :=
    repeatsSingly_mapping (List.forall_mem_singleton.mpr (repeatsSingly_repetition
      (repeatsSingly_wrapper rfl (repeatsSingly_wrapper rfl (repeatsSingly_scalar _)))))
  have reached : Reaches .body false tree.node [.key "ids", .anyItem] 4 part :=
    .deeper (.member List.mem_cons_self) (.deeper (.collection rfl)
      (.deeper (.sharedItem rfl List.mem_cons_self) (.deeper (.sample rfl) (.itself _ _))))
  refine ⟨single, _, rfl, rfl, ?_⟩
  exact (rulesAt?_eq_own_iff tree single 5 _ rfl _ 4 part _ reached rfl).mp rfl

/-- A generator between two matchers makes the rules of the inner one disappear. -/
theorem rules_lost_inside_generator :
    let inner := Node.matcher [.integer] none (.integer 5)
    let tree : Ordered :=
      ⟨.matcher [.equality] none (.generator (.randomInt 1 9) inner), by decide⟩
    tree.node.RepeatsSingly ∧ Reaches .body false tree.node [] 2 inner ∧
      inner.ownRules? .body = some ⟨[.integer], none⟩ ∧
        ∃ encoded, tree.node.encode .body 3 = .ok encoded ∧
          encoded.rulesAt? .body = some ⟨[.equality], none⟩ ∧
            encoded.rulesAt? .body ≠ inner.ownRules? .body := by
  intro inner tree
  have single : tree.node.RepeatsSingly :=
    repeatsSingly_wrapper rfl (repeatsSingly_wrapper rfl
      (repeatsSingly_wrapper rfl (repeatsSingly_scalar _)))
  refine ⟨single, .deeper (.sample rfl) (.deeper (.sample rfl) (.itself _ _)), rfl,
    _, rfl, rfl, fun same => ?_⟩
  cases same

end Node

end ConsumerContract
