/-
This file proves that joining the declarations of the parts of a collection never
fails. What a part declares lies below the step to it, distinct parts have
distinct steps, and different lists of steps have different texts. So a mapping
or a sequence can be refused for one of its parts only. The one exception is an
address below the empty path, where a key stands for itself; a body has none.
-/

import ConsumerContract.Proofs.Compiled
import ConsumerContract.Proofs.Path

namespace ConsumerContract

/-- No path is declared in both. -/
def Declared.Apart (first second : Declared) : Prop :=
  (∀ text ∈ Keyed.keys second.rules, text ∉ Keyed.keys first.rules) ∧
    ∀ text ∈ Keyed.keys second.generators, text ∉ Keyed.keys first.generators

/-- Both sorts of declarations can be merged. -/
def Declared.CanMerge (first second : Declared) : Prop :=
  (∃ rules, first.rules.merge second.rules = .ok rules) ∧
    ∃ generators, first.generators.merge second.generators = .ok generators

/-- Declarations of parts that were joined have no path in common. -/
theorem Declared.apart_of_join {declared added joined : Declared} {part : Node}
    (success : declared.join false part added = .ok joined) : declared.Apart added := by
  rw [join, if_neg Bool.false_ne_true] at success
  split at success
  · cases success
  · rename_i rules sameRules
    split at success
    · cases success
    · rename_i generators sameGenerators
      exact ⟨Keyed.disjoint_of_merge sameRules, Keyed.disjoint_of_merge sameGenerators⟩

namespace Entries

/-! ### Declarations behind a step -/

/-- Nothing is declared behind a step. -/
def Avoids (entries : Entries) (step : Step) : Prop :=
  ∀ steps declaration, entries.Records steps declaration → steps.head? ≠ some step

theorem empty_avoids (step : Step) : empty.Avoids step :=
  fun steps declaration recorded => absurd recorded (not_records_empty steps declaration)

theorem Avoids.append_below {entries : Entries} {step other : Step} (avoids : entries.Avoids step)
    (different : other ≠ step) (added : Entries) :
    (entries.append (added.below other)).Avoids step := by
  intro steps declaration recorded
  rcases records_append.mp recorded with before | new
  · exact avoids steps declaration before
  · obtain ⟨rest, rfl, -⟩ := records_below.mp new
    exact fun same => different (Option.some.inj same)

/-- What is moved behind a step has none of the texts of declarations that are not behind it. -/
theorem texts_apart {α : Type} {path : Path} (rooted : path.isEmpty = false) {step : Step}
    {before : List (List Step × α)} (avoids : ∀ entry ∈ before, entry.1.head? ≠ some step)
    (added : List (List Step × α)) :
    ∀ key ∈ Keyed.keys (Keyed.ofList ((added.map fun (steps, declaration) =>
        (step :: steps, declaration)).map fun (steps, declaration) =>
          ((path.ofSteps steps).text, declaration))),
      key ∉ Keyed.keys (Keyed.ofList (before.map fun (steps, declaration) =>
        ((path.ofSteps steps).text, declaration))) := by
  intro key new old
  obtain ⟨declaration, found⟩ := Keyed.mem_keys_ofList.mp new
  obtain ⟨declaration', found'⟩ := Keyed.mem_keys_ofList.mp old
  obtain ⟨moved, member, same⟩ := List.mem_map.mp found
  obtain ⟨inner, -, rfl⟩ := List.mem_map.mp member
  obtain ⟨entry, member', same'⟩ := List.mem_map.mp found'
  have sameText : path.ofSteps entry.1 = path.ofSteps (step :: inner.1) :=
    congrArg Path.mk ((Prod.ext_iff.mp same').1.trans (Prod.ext_iff.mp same).1.symm)
  have sameSteps := Path.ofSteps_injective rooted sameText
  exact avoids entry member' (congrArg List.head? sameSteps)

/-- What a part declares has no path in common with declarations that are not behind its step. -/
theorem apart_below {path : Path} (rooted : path.isEmpty = false) {step : Step}
    {entries : Entries} (avoids : entries.Avoids step) (added : Entries) :
    (entries.declared path).Apart ((added.below step).declared path) :=
  ⟨texts_apart rooted (fun entry member => avoids entry.1 (.rules entry.2) member) added.rules,
    texts_apart rooted (fun entry member => avoids entry.1 (.generator entry.2) member)
      added.generators⟩

/-- Merging what parts declare gives the maps of the entries of both. -/
theorem merge_of_apart {path : Path} {first second : Entries}
    (apart : (first.declared path).Apart (second.declared path)) :
    (first.declared path).rules.merge (second.declared path).rules =
        .ok ((first.append second).declared path).rules ∧
      (first.declared path).generators.merge (second.declared path).generators =
        .ok ((first.append second).declared path).generators := by
  rw [declared_append]
  exact ⟨Keyed.merge_of_disjoint (Keyed.ordered_ofList _).nodup apart.1,
    Keyed.merge_of_disjoint (Keyed.ordered_ofList _).nodup apart.2⟩

theorem join_of_apart {path : Path} {first second : Entries}
    (apart : (first.declared path).Apart (second.declared path)) (part : Node) :
    (first.declared path).join false part (second.declared path) =
      .ok ((first.append second).declared path) := by
  obtain ⟨rules, generators⟩ := merge_of_apart apart
  rw [Declared.join, if_neg Bool.false_ne_true, rules, generators]

end Entries

namespace Node

/-! ### Addresses in collections -/

theorem entriesOfItems_heads {element : Element} {position : Nat} {items : List Node}
    {steps : List Step} {declaration : Entries.Declaration}
    (recorded : (entriesOfItems element false position items).Records steps declaration) :
    ∃ offset < items.length, ∃ rest, steps = .index (position + offset) :: rest := by
  induction items generalizing position with
  | nil => exact absurd recorded (Entries.not_records_empty steps declaration)
  | cons item others inductionHypothesis =>
    rw [entriesOfItems, if_neg Bool.false_ne_true] at recorded
    rcases Entries.records_append.mp recorded with first | later
    · obtain ⟨rest, rfl, -⟩ := Entries.records_below.mp first
      exact ⟨0, Nat.zero_lt_succ _, rest, rfl⟩
    · obtain ⟨offset, inside, rest, rfl⟩ := inductionHypothesis later
      refine ⟨offset + 1, Nat.succ_lt_succ inside, rest, ?_⟩
      rw [Nat.add_right_comm, Nat.add_assoc]

theorem entriesOfMembers_heads {element : Element} {members : List (String × Node)}
    {steps : List Step} {declaration : Entries.Declaration}
    (recorded : (entriesOfMembers element members).Records steps declaration) :
    ∃ key ∈ Keyed.keys members, ∃ rest, steps = .key key :: rest := by
  induction members with
  | nil => exact absurd recorded (Entries.not_records_empty steps declaration)
  | cons entry others inductionHypothesis =>
    obtain ⟨key, member⟩ := entry
    rw [entriesOfMembers] at recorded
    rcases Entries.records_append.mp recorded with first | later
    · obtain ⟨rest, rfl, -⟩ := Entries.records_below.mp first
      exact ⟨key, List.mem_cons_self, rest, rfl⟩
    · obtain ⟨other, found, rest, rfl⟩ := inductionHypothesis later
      exact ⟨other, List.mem_cons_of_mem _ found, rest, rfl⟩

/-! ### Joining part by part -/

section Collections

variable {limit depth : Nat} {element : Element} {path : Path}

/-- The entries of an element, seen from its sequence. -/
theorem compiledForm_item (shared : Bool) (position : Nat) (item : Node) :
    (item.compiledForm element (path.item shared position) false).toDeclared =
      (if shared then item.entries element false
        else (item.entries element false).below (.index position)).declared path := by
  cases shared with
  | true => rfl
  | false =>
    rw [if_neg Bool.false_ne_true, Entries.declared_below]
    rfl

/-- Elements that share their path can always be joined, others if nothing has been declared
behind their position. -/
theorem join_compiledForm_item {shared : Bool} {position : Nat} {entries : Entries}
    (free : shared = false → path.isEmpty = false ∧ entries.Avoids (.index position))
    (item : Node) :
    (entries.declared path).join shared item
        (item.compiledForm element (path.item shared position) false).toDeclared =
      .ok ((entries.append (if shared then item.entries element false
        else (item.entries element false).below (.index position))).declared path) := by
  rw [compiledForm_item]
  cases shared with
  | true =>
    rw [Entries.declared_append]
    rfl
  | false =>
    obtain ⟨rooted, avoids⟩ := free rfl
    rw [if_neg Bool.false_ne_true]
    exact Entries.join_of_apart (Entries.apart_below rooted avoids _) item

theorem join_compiledForm_member (rooted : path.isEmpty = false) {key : String}
    {entries : Entries} (avoids : entries.Avoids (.key key)) (member : Node) :
    (entries.declared path).join false member
        (member.compiledForm element (path.child (.key key)) false).toDeclared =
      .ok ((entries.append ((member.entries element false).below (.key key))).declared path) := by
  rw [compiledForm, ← Entries.declared_below]
  exact Entries.join_of_apart (Entries.apart_below rooted avoids _) member

/-- Parts of a value behind different steps have no path in common. -/
theorem apart_of_compileAt (rooted : path.isEmpty = false) {step other : Step}
    (different : step ≠ other) {limit' depth' : Nat} {repeated repeated' : Bool}
    {node node' : Node} {compiled compiled' : Compiled}
    (first : compileAt limit element (path.child step) repeated depth node = .ok compiled)
    (second : compileAt limit' element (path.child other) repeated' depth' node' = .ok compiled') :
    compiled.toDeclared.Apart compiled'.toDeclared := by
  rw [compilesToForm node first, compilesToForm node' second, compiledForm, compiledForm,
    ← Entries.declared_below, ← Entries.declared_below]
  refine Entries.apart_below rooted (fun steps declaration recorded => ?_) _
  obtain ⟨rest, rfl, -⟩ := Entries.records_below.mp recorded
  exact fun same => different (Option.some.inj same)

/-- The declarations of an element can be merged with those of the elements before it. -/
theorem canMerge_item (rooted : path.isEmpty = false) {items : List Node} {item : Node}
    {declared : Declared} {values : List Json} {compiled : Compiled}
    (before : compileItems limit element path false depth 0 .empty items = .ok (declared, values))
    (own : compileAt limit element (path.child (.index items.length)) false (depth + 1) item =
      .ok compiled) :
    declared.CanMerge compiled.toDeclared := by
  have form := compileItems_eq .empty (fun item _ => compilesToForm item) before
  rw [Entries.empty_append] at form
  have sameDeclared : declared = (entriesOfItems element false 0 items).declared path :=
    (Prod.ext_iff.mp form).1
  have avoids : (entriesOfItems element false 0 items).Avoids (.index items.length) := by
    intro steps declaration recorded same
    obtain ⟨offset, inside, rest, rfl⟩ := entriesOfItems_heads recorded
    have last : 0 + offset = items.length := Step.index.inj (Option.some.inj same)
    omega
  rw [sameDeclared, compilesToForm item own, compiledForm, ← Entries.declared_below]
  obtain ⟨rules, generators⟩ := Entries.merge_of_apart (Entries.apart_below rooted avoids _)
  exact ⟨⟨_, rules⟩, _, generators⟩

/-- The declarations of a member can be merged with those of the members before it. -/
theorem canMerge_member (rooted : path.isEmpty = false) {members : List (String × Node)}
    {key : String} {member : Node} {declared : Declared} {values : List (String × Json)}
    {compiled : Compiled} (fresh : key ∉ Keyed.keys members)
    (before : compileMembers limit element path depth .empty members = .ok (declared, values))
    (own : compileAt limit element (path.child (.key key)) false (depth + 1) member =
      .ok compiled) :
    declared.CanMerge compiled.toDeclared := by
  have form := compileMembers_eq .empty (fun _ member _ => compilesToForm member) before
  rw [Entries.empty_append] at form
  have sameDeclared : declared = (entriesOfMembers element members).declared path :=
    (Prod.ext_iff.mp form).1
  have avoids : (entriesOfMembers element members).Avoids (.key key) := by
    intro steps declaration recorded same
    obtain ⟨other, inside, rest, rfl⟩ := entriesOfMembers_heads recorded
    exact fresh (Step.key.inj (Option.some.inj same) ▸ inside)
  rw [sameDeclared, compilesToForm member own, compiledForm, ← Entries.declared_below]
  obtain ⟨rules, generators⟩ := Entries.merge_of_apart (Entries.apart_below rooted avoids _)
  exact ⟨⟨_, rules⟩, _, generators⟩

/-- A sequence is refused for one of its elements only. -/
theorem compileItems_error (entries : Entries) {shared : Bool} {items : List Node} {position : Nat}
    {failure : EncodingFailure}
    (free : shared = false →
      path.isEmpty = false ∧ ∀ later, position ≤ later → entries.Avoids (.index later))
    (refused : compileItems limit element path shared depth position (entries.declared path) items =
      .error failure) :
    ∃ offset item, items[offset]? = some item ∧
      compileAt limit element (path.item shared (position + offset)) false (depth + 1) item =
        .error failure := by
  induction items generalizing position entries with
  | nil => cases refused
  | cons item rest inductionHypothesis =>
    rw [compileItems_cons] at refused
    simp only [bind_eq_error] at refused
    rcases refused with first | ⟨compiled, first, refused⟩
    · exact ⟨0, item, rfl, first⟩
    rw [compilesToForm item first, join_compiledForm_item (fun apart =>
      ⟨(free apart).1, (free apart).2 position (Nat.le_refl position)⟩)] at refused
    rcases refused with joining | ⟨joined, same, later | ⟨result, _, none⟩⟩
    · cases joining
    · rw [← Except.ok.inj same] at later
      obtain ⟨offset, other, found, refused⟩ := inductionHypothesis _ (fun apart => by
        refine ⟨(free apart).1, fun after above => ?_⟩
        rw [if_neg (Bool.not_eq_true _ ▸ apart)]
        refine ((free apart).2 after (by omega)).append_below (fun same => ?_) _
        have samePosition : position = after := Step.index.inj same
        omega) later
      refine ⟨offset + 1, other, found, ?_⟩
      rw [← Nat.add_assoc, Nat.add_right_comm]
      exact refused
    · cases none

/-- A mapping is refused for one of its members only. -/
theorem compileMembers_error (entries : Entries) (rooted : path.isEmpty = false)
    {members : List (String × Node)} (distinct : (Keyed.keys members).Nodup)
    {failure : EncodingFailure}
    (avoids : ∀ key ∈ Keyed.keys members, entries.Avoids (.key key))
    (refused : compileMembers limit element path depth (entries.declared path) members =
      .error failure) :
    ∃ key member, (key, member) ∈ members ∧
      compileAt limit element (path.child (.key key)) false (depth + 1) member =
        .error failure := by
  induction members generalizing entries with
  | nil => cases refused
  | cons entry rest inductionHypothesis =>
    obtain ⟨key, member⟩ := entry
    rw [compileMembers_cons] at refused
    simp only [bind_eq_error] at refused
    rcases refused with first | ⟨compiled, first, refused⟩
    · exact ⟨key, member, List.mem_cons_self, first⟩
    rw [compilesToForm member first,
      join_compiledForm_member rooted (avoids key List.mem_cons_self)] at refused
    rcases refused with joining | ⟨joined, same, later | ⟨result, _, none⟩⟩
    · cases joining
    · rw [← Except.ok.inj same] at later
      obtain ⟨fresh, distinct⟩ := List.nodup_cons.mp distinct
      obtain ⟨other, child, found, refused⟩ := inductionHypothesis _ distinct
        (fun other inRest => by
          refine (avoids other (List.mem_cons_of_mem _ inRest)).append_below (fun same => ?_) _
          obtain rfl : key = other := Step.key.inj same
          exact fresh inRest) later
      exact ⟨other, child, List.mem_cons_of_mem _ found, refused⟩
    · cases none

/-- Variants are refused for one of them, and its failure is given from the array. -/
theorem compileVariants_error {variants : List Node} {position : Nat} {failure : EncodingFailure}
    (refused : compileVariants limit path depth position variants = .error failure) :
    ∃ offset variant inner, variants[offset]? = some variant ∧
      compileAt limit .body .body false (depth + 1) variant = .error inner ∧
        failure = { inner with
          path := inner.path.below (path.child (.index (position + offset))) } := by
  induction variants generalizing position with
  | nil => cases refused
  | cons variant rest inductionHypothesis =>
    cases first : compileAt limit .body .body false (depth + 1) variant with
    | error inner =>
      rw [compileVariants_cons_error first] at refused
      exact ⟨0, variant, inner, rfl, first, (Except.error.inj refused).symm⟩
    | ok compiled =>
      rw [compileVariants_cons_ok first, bind_eq_error] at refused
      rcases refused with later | ⟨result, _, none⟩
      · obtain ⟨offset, other, inner, found, refused, same⟩ := inductionHypothesis later
        refine ⟨offset + 1, other, inner, found, refused, ?_⟩
        rw [same, Nat.add_right_comm, Nat.add_assoc]
      · cases none

end Collections

end Node

end ConsumerContract
