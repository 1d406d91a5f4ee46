/-
This file compares the elements that are not bodies. Queries and headers are
compiled alike, failures included. A request path is compiled as they are, but
without the rules of its composites: two runs over one tree, of which the second
one skips some insertions.

What the second run records is the first run's list of entries with those of
composites left out. Fewer paths in the maps of parts can not make joining them
fail, and no generator is left out, so the second run succeeds where the first one
does. A path keeps its rules unless an entry was left out there, because the last
entry at a path is the one that is kept.
-/

import ConsumerContract.Proofs.Recorded

namespace ConsumerContract

/-! ### Lists with entries left out -/

namespace Entries

section Omits

variable {α : Type} {omitted : List Step → Prop}

/-- The second list is the first one without some of the entries at certain places. -/
inductive Omits (omitted : List Step → Prop) :
    List (List Step × α) → List (List Step × α) → Prop where
  | nil : Omits omitted [] []
  | kept {full thin : List (List Step × α)} (entry : List Step × α)
      (rest : Omits omitted full thin) : Omits omitted (entry :: full) (entry :: thin)
  | left {full thin : List (List Step × α)} {entry : List Step × α} (here : omitted entry.1)
      (rest : Omits omitted full thin) : Omits omitted (entry :: full) thin

theorem Omits.refl (listed : List (List Step × α)) : Omits omitted listed listed := by
  induction listed with
  | nil => exact .nil
  | cons entry rest inductionHypothesis => exact .kept entry inductionHypothesis

theorem Omits.append {full thin full' thin' : List (List Step × α)}
    (first : Omits omitted full thin) (second : Omits omitted full' thin') :
    Omits omitted (full ++ full') (thin ++ thin') := by
  induction first with
  | nil => exact second
  | kept entry rest inductionHypothesis => exact .kept entry inductionHypothesis
  | left here rest inductionHypothesis => exact .left here inductionHypothesis

theorem Omits.mono {placed : List Step → Prop} (wider : ∀ steps, omitted steps → placed steps)
    {full thin : List (List Step × α)} (omits : Omits omitted full thin) :
    Omits placed full thin := by
  induction omits with
  | nil => exact .nil
  | kept entry rest inductionHypothesis => exact .kept entry inductionHypothesis
  | left here rest inductionHypothesis => exact .left (wider _ here) inductionHypothesis

/-- The steps of all entries may be changed together with the places. -/
theorem Omits.map {placed : List Step → Prop} {move : List Step → List Step}
    (moves : ∀ steps, omitted steps → placed (move steps)) {full thin : List (List Step × α)}
    (omits : Omits omitted full thin) :
    Omits placed (full.map fun (steps, declaration) => (move steps, declaration))
      (thin.map fun (steps, declaration) => (move steps, declaration)) := by
  induction omits with
  | nil => exact .nil
  | kept entry rest inductionHypothesis => exact .kept _ inductionHypothesis
  | left here rest inductionHypothesis => exact .left (moves _ here) inductionHypothesis

theorem Omits.subset {full thin : List (List Step × α)} (omits : Omits omitted full thin)
    {entry : List Step × α} (member : entry ∈ thin) : entry ∈ full := by
  induction omits with
  | nil => exact member
  | kept other rest inductionHypothesis =>
    rcases List.mem_cons.mp member with rfl | inRest
    · exact List.mem_cons_self
    · exact List.mem_cons_of_mem _ (inductionHypothesis inRest)
  | left here rest inductionHypothesis => exact List.mem_cons_of_mem _ (inductionHypothesis member)

/-- At a path where nothing was left out the last entry is the same. -/
theorem Omits.find?_eq {full thin : List (List Step × α)} (omits : Omits omitted full thin)
    {path : Path} {text : String}
    (intact : ∀ steps, omitted steps → (path.ofSteps steps).text ≠ text) :
    Keyed.find? text (Keyed.ofList (thin.map fun (steps, declaration) =>
        ((path.ofSteps steps).text, declaration))) =
      Keyed.find? text (Keyed.ofList (full.map fun (steps, declaration) =>
        ((path.ofSteps steps).text, declaration))) := by
  rw [Keyed.find?_ofList, Keyed.find?_ofList]
  induction omits with
  | nil => rfl
  | kept entry rest inductionHypothesis =>
    rw [List.map_cons, List.map_cons, List.reverse_cons, List.reverse_cons, Keyed.find?_append,
      Keyed.find?_append, inductionHypothesis]
  | left here rest inductionHypothesis =>
    rw [List.map_cons, List.reverse_cons, Keyed.find?_append, inductionHypothesis, Keyed.find?,
      if_neg (intact _ here).symm, Keyed.find?_nil, Option.or_none]

theorem Omits.keys_subset {full thin : List (List Step × α)} (omits : Omits omitted full thin)
    (path : Path) {text : String}
    (member : text ∈ Keyed.keys (Keyed.ofList (thin.map fun (steps, declaration) =>
      ((path.ofSteps steps).text, declaration)))) :
    text ∈ Keyed.keys (Keyed.ofList (full.map fun (steps, declaration) =>
      ((path.ofSteps steps).text, declaration))) := by
  obtain ⟨declaration, found⟩ := Keyed.mem_keys_ofList.mp member
  obtain ⟨entry, listed, same⟩ := List.mem_map.mp found
  exact Keyed.mem_keys_ofList.mpr
    ⟨declaration, List.mem_map.mpr ⟨entry, omits.subset listed, same⟩⟩

end Omits

/-- The second entries are the first ones without some of the rules at certain places. -/
structure LeavesOut (omitted : List Step → Prop) (full thin : Entries) : Prop where
  rules : Omits omitted full.rules thin.rules
  generators : thin.generators = full.generators

namespace LeavesOut

variable {omitted : List Step → Prop} {full thin : Entries}

theorem refl (entries : Entries) : LeavesOut omitted entries entries :=
  ⟨.refl _, rfl⟩

theorem append {full' thin' : Entries} (first : LeavesOut omitted full thin)
    (second : LeavesOut omitted full' thin') :
    LeavesOut omitted (full.append full') (thin.append thin') := by
  refine ⟨first.rules.append second.rules, ?_⟩
  rw [Entries.append, Entries.append, first.generators, second.generators]

theorem mono {placed : List Step → Prop} (leaves : LeavesOut omitted full thin)
    (wider : ∀ steps, omitted steps → placed steps) : LeavesOut placed full thin :=
  ⟨leaves.rules.mono wider, leaves.generators⟩

theorem below {placed : List Step → Prop} (leaves : LeavesOut omitted full thin) {step : Step}
    (moves : ∀ steps, omitted steps → placed (step :: steps)) :
    LeavesOut placed (full.below step) (thin.below step) := by
  refine ⟨leaves.rules.map moves, ?_⟩
  rw [Entries.below, Entries.below, leaves.generators]

theorem withRules (leaves : LeavesOut omitted full thin) (ruleSet : RuleSet) :
    LeavesOut omitted (full.withRules ruleSet) (thin.withRules ruleSet) :=
  ⟨leaves.rules.append (.refl _), leaves.generators⟩

theorem withoutRules (leaves : LeavesOut omitted full thin) (here : omitted [])
    (ruleSet : RuleSet) : LeavesOut omitted (full.withRules ruleSet) thin := by
  refine ⟨?_, leaves.generators⟩
  have last : Omits omitted [(([] : List Step), ruleSet)] [] := .left here .nil
  have added := leaves.rules.append last
  rwa [List.append_nil] at added

theorem withGenerator (leaves : LeavesOut omitted full thin) (generator : Generator) :
    LeavesOut omitted (full.withGenerator generator) (thin.withGenerator generator) :=
  ⟨leaves.rules, congrArg (· ++ _) leaves.generators⟩

end LeavesOut

/-- Declarations that were joined can still be joined if some of the rules are left out. -/
theorem join_of_leavesOut {omitted omitted' : List Step → Prop}
    {full thin added thinAdded : Entries}
    (leaves : LeavesOut omitted full thin) (leavesAdded : LeavesOut omitted' added thinAdded)
    {path : Path} {part : Node} {joined : Declared}
    (success : (full.declared path).join false part (added.declared path) = .ok joined) :
    (thin.declared path).join false part (thinAdded.declared path) =
      .ok ((thin.append thinAdded).declared path) := by
  obtain ⟨rules, generators⟩ := Declared.apart_of_join success
  refine join_of_apart ⟨fun text new old => ?_, ?_⟩ part
  · exact rules text (leavesAdded.rules.keys_subset path new) (leaves.rules.keys_subset path old)
  · rw [declared, declared, leaves.generators, leavesAdded.generators]
    exact generators

end Entries

/-- Outside of bodies, declarations have one shape. -/
theorem Declarations.ofEntries?_eq_header {α : Type} {element : Element} (outside : element ≠ .body)
    (entries : Keyed α) : ofEntries? element entries = ofEntries? .header entries := by
  match entries with
  | [] => rfl
  | [(path, declaration)] =>
    rw [ofEntries?, ofEntries?]
    simp only [outside, ne_eq, not_false_eq_true, reduceCtorEq]
  | _ :: _ :: _ => rfl

/-- Whether a generator can be recorded does not depend on the rules. -/
theorem Compiled.withGenerator_of_generators {compiled other result : Compiled}
    (same : other.generators = compiled.generators) {path : Path} {generator : Generator}
    {sample : Node} (success : compiled.withGenerator path generator sample = .ok result) :
    ∃ result', other.withGenerator path generator sample = .ok result' := by
  rw [withGenerator_eq] at success
  rw [withGenerator_eq, same]
  split at success
  · cases success
  · rename_i free
    exact ⟨_, if_neg free⟩

namespace Node

/-! ### Queries and headers -/

section Queries

variable {limit : Nat}

theorem compileItems_query {items : List Node}
    (each : ∀ item ∈ items, ∀ path repeated depth,
      compileAt limit .query path repeated depth item =
        compileAt limit .header path repeated depth item)
    (path : Path) (shared : Bool) (depth position : Nat) (declared : Declared) :
    compileItems limit .query path shared depth position declared items =
      compileItems limit .header path shared depth position declared items := by
  induction items generalizing position declared with
  | nil => rfl
  | cons item rest inductionHypothesis =>
    obtain ⟨first, others⟩ := List.forall_mem_cons.mp each
    rw [compileItems_cons, compileItems_cons, first]
    simp only [inductionHypothesis others]

theorem compileMembers_query {members : List (String × Node)}
    (each : ∀ key member, (key, member) ∈ members → ∀ path repeated depth,
      compileAt limit .query path repeated depth member =
        compileAt limit .header path repeated depth member)
    (path : Path) (depth : Nat) (declared : Declared) :
    compileMembers limit .query path depth declared members =
      compileMembers limit .header path depth declared members := by
  induction members generalizing declared with
  | nil => rfl
  | cons entry rest inductionHypothesis =>
    obtain ⟨key, member⟩ := entry
    rw [compileMembers_cons, compileMembers_cons, each key member List.mem_cons_self]
    simp only [inductionHypothesis fun key member found =>
      each key member (List.mem_cons_of_mem _ found)]

/-- A tree is compiled for a query as for a header, whether that succeeds or not. -/
theorem compileAt_query (node : Node) (path : Path) (repeated : Bool) (depth : Nat) :
    compileAt limit .query path repeated depth node =
      compileAt limit .header path repeated depth node := by
  induction node generalizing path repeated depth with
  | _ => ?_
  all_goals
    rcases Nat.lt_or_ge limit depth with deep | within
    · rw [compileAt_of_lt deep, compileAt_of_lt deep]
  case scalar value => rw [compileAt_scalar within, compileAt_scalar within]
  case sequence items each =>
    rw [compileAt_sequence within, compileAt_sequence within, compileItems_query each]
    rfl
  case mapping members each =>
    rw [compileAt_mapping within, compileAt_mapping within, compileMembers_query each]
  case matcher rules combine sample inductionHypothesis =>
    rw [compileAt_matcher within, compileAt_matcher within, inductionHypothesis]
  case repetition collection min max inductionHypothesis =>
    cases shape : collection.anyPart? with
    | none => rw [compileAt_repetition_none within shape, compileAt_repetition_none within shape]
    | some step =>
      rw [compileAt_repetition within shape, compileAt_repetition within shape, inductionHypothesis]
  case arrayContains variants each =>
    rw [compileAt_arrayContains within, compileAt_arrayContains within]
  case generator declaration sample inductionHypothesis =>
    rw [compileAt_generator within, compileAt_generator within, inductionHypothesis]
  case composite rule declaration sample inductionHypothesis =>
    rw [compileAt_composite within, compileAt_composite within, inductionHypothesis]
    rfl
  case invalid description problem =>
    rw [compileAt_invalid within, compileAt_invalid within]

end Queries

/-! ### Composites in a request path -/

/-- A composite lies at the address. -/
def CompositeAt (repeated : Bool) (node : Node) (steps : List Step) : Prop :=
  ∃ level rule declaration sample,
    Reaches .header repeated node steps level (.composite rule declaration sample)

theorem CompositeAt.deeper {repeated flag : Bool} {node child : Node} {front : List Step}
    (edge : Below .header repeated node front flag child) {steps : List Step}
    (inside : child.CompositeAt flag steps) : node.CompositeAt repeated (front ++ steps) := by
  obtain ⟨level, rule, declaration, sample, reached⟩ := inside
  exact ⟨level + 1, rule, declaration, sample, .deeper edge reached⟩

theorem leavesOut_entriesOfItems {omitted : List Step → Prop} {items : List Node}
    (each : ∀ item ∈ items,
      Entries.LeavesOut omitted (item.entries .header false) (item.entries .path false))
    (position : Nat) :
    Entries.LeavesOut omitted (entriesOfItems .header true position items)
      (entriesOfItems .path true position items) := by
  induction items generalizing position with
  | nil => exact .refl _
  | cons item rest inductionHypothesis =>
    obtain ⟨first, others⟩ := List.forall_mem_cons.mp each
    exact first.append (inductionHypothesis others (position + 1))

theorem leavesOut_entriesOfMembers {omitted : List Step → Prop} {members : List (String × Node)}
    (each : ∀ key member, (key, member) ∈ members →
      Entries.LeavesOut omitted ((member.entries .header false).below (.key key))
        ((member.entries .path false).below (.key key))) :
    Entries.LeavesOut omitted (entriesOfMembers .header members)
      (entriesOfMembers .path members) := by
  induction members with
  | nil => exact .refl _
  | cons entry rest inductionHypothesis =>
    obtain ⟨key, member⟩ := entry
    exact (each key member List.mem_cons_self).append
      (inductionHypothesis fun key member found =>
        each key member (List.mem_cons_of_mem _ found))

/-- What a tree declares in a request path is what it declares in a header, without the rules
of composites. -/
theorem leavesOut_entries (node : Node) (repeated : Bool) :
    Entries.LeavesOut (node.CompositeAt repeated) (node.entries .header repeated)
      (node.entries .path repeated) := by
  induction node generalizing repeated with
  | scalar value => exact .refl _
  | sequence items each =>
    have shared : (repeated || true) = true := Bool.or_true repeated
    change Entries.LeavesOut _ (entriesOfItems .header (repeated || true) 0 items)
      (entriesOfItems .path (repeated || true) 0 items)
    rw [shared]
    refine leavesOut_entriesOfItems (fun item member => ?_) 0
    exact (each item member false).mono fun steps inside =>
      inside.deeper (.sharedItem shared member)
  | mapping members each =>
    refine leavesOut_entriesOfMembers fun key member found => ?_
    exact (each key member found false).below fun steps inside => inside.deeper (.member found)
  | matcher rules combine sample inductionHypothesis =>
    exact ((inductionHypothesis false).mono fun steps inside =>
      inside.deeper (.sample rfl)).withRules _
  | repetition collection min max inductionHypothesis =>
    cases shape : collection.anyPart? with
    | none =>
      rw [entries, entries, shape]
      exact .refl _
    | some step =>
      rw [entries_repetition _ _ shape, entries_repetition _ _ shape]
      exact ((inductionHypothesis true).below fun steps inside =>
        inside.deeper (.collection shape)).withRules _
  | arrayContains variants each => exact .refl _
  | generator declaration sample inductionHypothesis =>
    exact ((inductionHypothesis false).mono fun steps inside =>
      inside.deeper (.sample rfl)).withGenerator _
  | composite rule declaration sample inductionHypothesis =>
    have here : (composite rule declaration sample).CompositeAt repeated [] :=
      ⟨0, rule, declaration, sample, .itself _ _⟩
    exact (((inductionHypothesis false).mono fun steps inside =>
      inside.deeper (.sample rfl)).withoutRules here _).withGenerator _
  | invalid description problem => exact .refl _

/-! ### Success in a request path -/

/-- Where the node is compiled as a header, it is compiled as a request path. -/
def CompilesAsPath (limit : Nat) (node : Node) : Prop :=
  ∀ path repeated depth compiled, compileAt limit .header path repeated depth node = .ok compiled →
    compileAt limit .path path repeated depth node = .ok (node.compiledForm .path path repeated)

section Paths

variable {limit : Nat}

theorem generators_compiledForm_path (node : Node) (path : Path) (repeated : Bool) :
    (node.compiledForm .path path repeated).generators =
      (node.compiledForm .header path repeated).generators := by
  rw [compiledForm, compiledForm, Entries.declared, Entries.declared,
    (leavesOut_entries node repeated).generators]

theorem compilesAsPath_of_exists {node : Node}
    (succeeds : ∀ path repeated depth compiled,
      compileAt limit .header path repeated depth node = .ok compiled →
        ∃ other, compileAt limit .path path repeated depth node = .ok other) :
    node.CompilesAsPath limit := by
  intro path repeated depth compiled success
  obtain ⟨other, success'⟩ := succeeds path repeated depth compiled success
  rw [success', compilesToForm node success']

theorem compileItems_path {items : List Node}
    (each : ∀ item ∈ items, item.CompilesAsPath limit) {path : Path} {depth position : Nat}
    {declared : Declared} {result : Declared × List Json}
    (success : compileItems limit .header path true depth position declared items = .ok result)
    (thin : Declared) :
    ∃ other, compileItems limit .path path true depth position thin items = .ok other := by
  induction items generalizing position declared thin result with
  | nil => exact ⟨_, rfl⟩
  | cons item rest inductionHypothesis =>
    obtain ⟨first, others⟩ := List.forall_mem_cons.mp each
    rw [compileItems_cons] at success
    simp only [bind_eq_ok] at success
    obtain ⟨compiled, own, joined, -, later, success, -⟩ := success
    rw [compileItems_cons, first _ _ _ _ own]
    simp only [bind_eq_ok]
    obtain ⟨other, success'⟩ := inductionHypothesis others success _
    exact ⟨_, _, rfl, _, rfl, other, success', rfl⟩

theorem compileMembers_path {members : List (String × Node)}
    (each : ∀ key member, (key, member) ∈ members → member.CompilesAsPath limit) {path : Path}
    {depth : Nat} {full thin : Entries} (leaves : full.LeavesOut (fun _ => True) thin)
    {result : Declared × List (String × Json)}
    (success : compileMembers limit .header path depth (full.declared path) members = .ok result) :
    ∃ other, compileMembers limit .path path depth (thin.declared path) members = .ok other := by
  induction members generalizing full thin result with
  | nil => exact ⟨_, rfl⟩
  | cons entry rest inductionHypothesis =>
    obtain ⟨key, member⟩ := entry
    rw [compileMembers_cons] at success
    simp only [bind_eq_ok] at success
    obtain ⟨compiled, own, joined, join, later, success, -⟩ := success
    rw [compilesToForm member own, compiledForm, ← Entries.declared_below] at join
    rw [Entries.declared_append_of_join join] at success
    have leavesMember :
        ((member.entries .header false).below (.key key)).LeavesOut (fun _ => True)
          ((member.entries .path false).below (.key key)) :=
      (leavesOut_entries member false).below fun _ _ => trivial
    have join' := Entries.join_of_leavesOut leaves leavesMember join
    obtain ⟨other, success'⟩ := inductionHypothesis
      (fun key member found => each key member (List.mem_cons_of_mem _ found))
      (leaves.append leavesMember) success
    rw [compileMembers_cons, each key member List.mem_cons_self _ _ _ _ own, compiledForm,
      ← Entries.declared_below]
    simp only [bind_eq_ok]
    exact ⟨_, _, rfl, _, join', other, success', rfl⟩

/-- A tree that is compiled as a header can be compiled as a request path. -/
theorem compilesAsPath (node : Node) : node.CompilesAsPath limit := by
  induction node with
  | _ => ?_
  all_goals
    refine compilesAsPath_of_exists fun path repeated depth compiled success => ?_
    have within := depth_le_of_compileAt success
  case scalar value =>
    rw [compileAt_scalar within] at success ⊢
    exact ⟨compiled, success⟩
  case sequence items each =>
    have shared : (repeated || true) = true := Bool.or_true repeated
    rw [compileAt_sequence within, bind_eq_ok] at success
    obtain ⟨result, success, -⟩ := success
    change compileItems limit .header path (repeated || true) depth 0 .empty items = _ at success
    rw [shared] at success
    obtain ⟨other, success'⟩ := compileItems_path each success .empty
    rw [compileAt_sequence within]
    change ∃ other, compileItems limit .path path (repeated || true) depth 0 .empty items >>= _ = _
    rw [shared, success']
    exact ⟨_, rfl⟩
  case mapping members each =>
    rw [compileAt_mapping within, bind_eq_ok] at success
    obtain ⟨result, success, -⟩ := success
    obtain ⟨other, success'⟩ :=
      compileMembers_path each (Entries.LeavesOut.refl .empty) success
    rw [compileAt_mapping within]
    exact ⟨_, bind_eq_ok.mpr ⟨other, success', rfl⟩⟩
  case matcher rules combine sample inductionHypothesis =>
    rw [compileAt_matcher within] at success
    simp only [bind_eq_ok] at success
    obtain ⟨_, plain, _, checked, inner, success, -⟩ := success
    rw [compileAt_matcher within, plain, checked, inductionHypothesis _ _ _ _ success]
    exact ⟨_, rfl⟩
  case repetition collection min max inductionHypothesis =>
    cases shape : collection.anyPart? with
    | none =>
      rw [compileAt_repetition_none within shape] at success
      cases success
    | some step =>
      rw [compileAt_repetition within shape, bind_eq_ok] at success
      obtain ⟨inner, success, -⟩ := success
      rw [compileAt_repetition within shape, inductionHypothesis _ _ _ _ success]
      exact ⟨_, rfl⟩
  case arrayContains variants each =>
    rw [compileAt_arrayContains within] at success ⊢
    exact ⟨compiled, success⟩
  case generator declaration sample inductionHypothesis =>
    rw [compileAt_generator within] at success
    simp only [bind_eq_ok] at success
    obtain ⟨_, checked, inner, success, last⟩ := success
    rw [compileAt_generator within, checked, inductionHypothesis _ _ _ _ success]
    rw [compilesToForm sample success] at last
    exact Compiled.withGenerator_of_generators (generators_compiledForm_path sample path false) last
  case composite rule declaration sample inductionHypothesis =>
    rw [compileAt_composite within] at success
    simp only [bind_eq_ok] at success
    obtain ⟨_, plain, _, checked, _, usable, inner, success, last⟩ := success
    rw [compileAt_composite within, plain, checked, usable, inductionHypothesis _ _ _ _ success]
    rw [compilesToForm sample success, if_neg (by decide)] at last
    have same : (sample.compiledForm .path path false).generators =
        ((sample.compiledForm .header path false).withRules path ⟨[rule], none⟩).generators :=
      generators_compiledForm_path sample path false
    exact Compiled.withGenerator_of_generators same last
  case invalid description problem =>
    rw [compileAt_invalid within] at success
    cases success

end Paths

/-! ### Encoded elements -/

/-- Elements other than bodies differ in the rules of composites only. A query is encoded as
a header is, and fails as a header does. Whatever can be encoded as a header can be encoded as a
request path, with the same value and the same generators. Its rules lie at paths where the
header has rules, and they are the same ones except at the path of a composite. -/
theorem encode_query_header_path (node : Node) (maxDepth : Nat) :
    node.encode .query maxDepth =
        (node.encode .header maxDepth).map (fun encoded => { encoded with element := .query }) ∧
      ∀ encoded, node.encode .header maxDepth = .ok encoded →
        ∃ other, node.encode .path maxDepth = .ok other ∧ other.value = encoded.value ∧
          other.generators = encoded.generators ∧
          (∀ path, other.rulesAt? path ≠ none → encoded.rulesAt? path ≠ none) ∧
          ∀ path, other.rulesAt? path ≠ encoded.rulesAt? path →
            ∃ steps, node.CompositeAt false steps ∧ path = .ofSteps .empty steps := by
  constructor
  · have sameCompiled : node.compile .query Element.query.root false maxDepth =
        node.compile .header Element.header.root false maxDepth :=
      compileAt_query node .empty false 0
    rw [encode_eq, encode_eq, sameCompiled]
    cases node.compile .header Element.header.root false maxDepth with
    | error failure => rfl
    | ok compiled =>
      have outside : Element.query ≠ .body := by decide
      simp only [bind, Except.bind, Except.map, Declarations.ofEntries?_eq_header outside]
  · intro encoded success
    have leaves := leavesOut_entries node false
    have generators := generators_compiledForm_path node .empty false
    refine ⟨node.encodedForm .path,
      encode_of_compile (compilesAsPath node _ _ _ _ (compile_of_encode success)), ?_⟩
    rw [eq_encodedForm_of_encode success]
    refine ⟨rfl, ?_, fun path => ?_, fun path => ?_⟩
    · exact (congrArg _ generators).trans
        (Declarations.ofEntries?_eq_header (by decide) _)
    · rw [rulesAt?_encodedForm, rulesAt?_encodedForm, ne_eq, ne_eq, Keyed.find?_eq_none,
        Keyed.find?_eq_none, Decidable.not_not, Decidable.not_not]
      exact leaves.rules.keys_subset .empty
    · intro different
      refine Classical.byContradiction fun elsewhere => different ?_
      rw [rulesAt?_encodedForm, rulesAt?_encodedForm]
      refine leaves.rules.find?_eq fun steps composite sameText => elsewhere ⟨steps, composite, ?_⟩
      exact congrArg Path.mk sameText.symm

/-- In an array inside a header, the rule of a composite is laid over that of a matcher before it.
In a request path it is left out, and the matcher's rule is found there. -/
theorem encode_query_header_path_of_ids :
    let own := Node.matcher [.integer] none (.integer 1)
    let id := Node.composite .sameType (.randomInt 1 9) (.integer 5)
    let tree := Node.sequence [own, id]
    ∃ encoded other, tree.encode .header 3 = .ok encoded ∧ tree.encode .path 3 = .ok other ∧
      encoded.rulesAt? .empty = some ⟨[.sameType], none⟩ ∧
        other.rulesAt? .empty = some ⟨[.integer], none⟩ ∧ other.generators = encoded.generators ∧
          ∃ steps, tree.CompositeAt false steps ∧ Path.empty = .ofSteps .empty steps := by
  intro own id tree
  have success : tree.encode .header 3 = .ok (tree.encodedForm .header) := rfl
  obtain ⟨-, paths⟩ := encode_query_header_path tree 3
  obtain ⟨other, success', -, generators, -, composite⟩ := paths _ success
  have form := eq_encodedForm_of_encode success'
  have rules : (tree.encodedForm .header).rulesAt? .empty = some ⟨[.sameType], none⟩ := rfl
  have rules' : other.rulesAt? .empty = some ⟨[.integer], none⟩ := by rw [form]; rfl
  refine ⟨_, other, success, success', rules, rules', generators, composite .empty ?_⟩
  rw [rules, rules']
  exact nofun

end Node

end ConsumerContract
