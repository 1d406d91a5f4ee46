/-
This file says what is read from the description of a whole contract. Each item is read
on its own; afterwards some readings are marked as duplicates, which changes no
interaction and adds nothing but warnings. If nothing that is reported is an error, there
is a document with one interaction for each item, in their order, and each of them is the
one that its item describes.
-/

import ConsumerContract.Compilation
import ConsumerContract.Proofs.Described

namespace ConsumerContract

/-- If something is chosen for each item, the choices are in the places of their items. -/
theorem getElem?_filterMap_of_isSome {α β : Type} {choose : α → Option β} {items : List α}
    (each : ∀ item ∈ items, (choose item).isSome = true) (position : Nat) :
    (items.filterMap choose)[position]? = items[position]?.bind choose := by
  induction items generalizing position with
  | nil => rfl
  | cons item rest inductionHypothesis =>
    obtain ⟨first, others⟩ := List.forall_mem_cons.mp each
    obtain ⟨chosen, chose⟩ := Option.isSome_iff_exists.mp first
    rw [List.filterMap_cons, chose]
    cases position with
    | zero => exact chose.symm
    | succ position => exact inductionHypothesis others position

/-- Nothing that was found is an error. -/
def DescriptionReading.IsClean (reading : DescriptionReading) : Prop :=
  ∀ finding ∈ reading.findings, finding.problem.severity ≠ .error

namespace Description

variable {source : ExampleSource} {maxDepth : Nat}

/-! ### Duplicates -/

/-- A reading is marked by at most one finding behind its own. -/
theorem markDuplicates_cons (seen : List String) (reading : ItemReading)
    (rest : List ItemReading) :
    ∃ marks others, markDuplicates seen (reading :: rest) =
        { reading with findings := reading.findings ++ marks } :: markDuplicates others rest ∧
      ∀ mark ∈ marks, ∃ place description,
        mark = .located place (.duplicateDescription description) := by
  rw [markDuplicates]
  split
  · exact ⟨[], seen, by rw [List.append_nil], nofun⟩
  · rename_i description _ _ _ _ _ _ _
    refine ⟨_, description :: seen, rfl, fun mark member => ?_⟩
    split at member
    · exact ⟨_, description, List.mem_singleton.mp member⟩
    · cases member

/-- The marks of duplicates leave all interactions as they are. -/
theorem map_interaction_markDuplicates (seen : List String) (readings : List ItemReading) :
    (markDuplicates seen readings).map (·.interaction) = readings.map (·.interaction) := by
  induction readings generalizing seen with
  | nil => rfl
  | cons reading rest inductionHypothesis =>
    obtain ⟨marks, others, marked, _⟩ := markDuplicates_cons seen reading rest
    rw [marked, List.map_cons, List.map_cons, inductionHypothesis]

/-- Besides warnings about duplicates there are the findings about each item. -/
theorem filter_findings_markDuplicates {keeps : Finding → Bool}
    (skips : ∀ place description,
      keeps (.located place (.duplicateDescription description)) = false)
    (seen : List String) (readings : List ItemReading) :
    ((markDuplicates seen readings).flatMap (·.findings)).filter keeps =
      (readings.flatMap (·.findings)).filter keeps := by
  induction readings generalizing seen with
  | nil => rfl
  | cons reading rest inductionHypothesis =>
    obtain ⟨marks, others, marked, duplicates⟩ := markDuplicates_cons seen reading rest
    have skipped : marks.filter keeps = [] := by
      refine List.filter_eq_nil_iff.mpr fun mark member => ?_
      obtain ⟨place, description, rfl⟩ := duplicates mark member
      rw [skips]
      exact Bool.false_ne_true
    rw [marked, List.flatMap_cons, List.flatMap_cons, List.filter_append, List.filter_append,
      List.filter_append, skipped, List.append_nil, inductionHypothesis]

/-! ### Descriptions with both names -/

/-- The items of a description; without a list of interactions there are none. -/
def itemsOf (description : Json) : List Json :=
  ((description.member? "interactions").bind Json.items?).getD []

/-- What is read from the item at a position. It depends on no other item. -/
def itemReading (source : ExampleSource) (maxDepth position : Nat) (item : Json) : ItemReading :=
  interaction (source.part position) maxDepth (Location.interaction position) item

/-- The finding is about the list of interactions as a whole. -/
def IsAboutList (finding : Finding) : Prop :=
  (finding.problem = .interactionsMissing ∨ finding.problem = .interactionsNotList ∨
      finding.problem = .noInteractions) ∧
    (finding.location = none ∨ finding.location = some "interactions")

theorem isAboutList_of_items {fields : DescriptionFields} {finding : Finding}
    (member : finding ∈ findingOf (items fields) ++ emptyFinding (items fields)) :
    IsAboutList finding := by
  unfold items at member
  split at member
  · rename_i written _
    cases written with
    | nil =>
      obtain rfl := List.mem_singleton.mp member
      exact ⟨Or.inr (Or.inr rfl), Or.inr rfl⟩
    | cons => cases member
  · obtain rfl := List.mem_singleton.mp member
    exact ⟨Or.inr (Or.inl rfl), Or.inr rfl⟩
  · obtain rfl := List.mem_singleton.mp member
    exact ⟨Or.inl rfl, Or.inl rfl⟩

theorem toOption_items (fields : DescriptionFields) :
    (items fields).toOption.getD [] = itemsOf (.object fields) := by
  rw [items, itemsOf, Json.member?]
  cases Keyed.find? "interactions" fields with
  | none => rfl
  | some written => cases written <;> rfl

theorem filterMap_interaction_markDuplicates (readings : List ItemReading) :
    (markDuplicates [] readings).filterMap (·.interaction) =
      readings.filterMap (·.interaction) := by
  have mapped (readings : List ItemReading) : readings.filterMap (·.interaction) =
      (readings.map (·.interaction)).filterMap id := by
    rw [List.filterMap_map]
    rfl
  rw [mapped, map_interaction_markDuplicates, ← mapped]

/-- A description that gives a pact gives the reading of each item, some of them marked as
duplicates, and at most findings about the list as a whole before. -/
theorem contract_of_pact {description : Json} {pact : Pact}
    (named : (contract source maxDepth description).pact = some pact) :
    let readings := (itemsOf description).mapIdx (itemReading source maxDepth)
    pact.interactions = readings.filterMap (·.interaction) ∧
      ∃ general, (contract source maxDepth description).findings =
          general ++ (markDuplicates [] readings).flatMap (·.findings) ∧
        ∀ finding ∈ general, IsAboutList finding := by
  intro readings
  cases description with
  | object fields =>
    rw [contract] at named ⊢
    dsimp only at named ⊢
    rw [toOption_items] at named ⊢
    split at named
    · rename_i consumer provider consumerRead providerRead
      obtain rfl := Option.some.inj named
      rw [consumerRead, providerRead]
      exact ⟨filterMap_interaction_markDuplicates readings, _, rfl,
        fun finding member => isAboutList_of_items member⟩
    · cases named
  | _ => cases named

theorem severity_of_participant {role : String} {fields : DescriptionFields} {finding : Finding}
    (failed : participant role fields = .error finding) : finding.problem.severity = .error := by
  unfold participant at failed
  split at failed
  · cases failed
  · cases failed
    rfl

/-- Without a pact there is an error. -/
theorem error_of_no_pact {description : Json}
    (unnamed : (contract source maxDepth description).pact = none) :
    ∃ finding ∈ (contract source maxDepth description).findings,
      finding.problem.severity = .error := by
  cases description with
  | object fields =>
    rw [contract] at unnamed ⊢
    dsimp only at unnamed ⊢
    cases consumerRead : participant "consumer" fields with
    | error finding =>
      exact ⟨finding, List.mem_append_left _ (List.mem_append_left _ (List.mem_singleton_self _)),
        severity_of_participant consumerRead⟩
    | ok consumer =>
      cases providerRead : participant "provider" fields with
      | error finding =>
        exact ⟨finding,
          List.mem_append_left _ (List.mem_append_right _ (List.mem_singleton_self _)),
          severity_of_participant providerRead⟩
      | ok provider =>
        rw [consumerRead, providerRead] at unnamed
        cases unnamed
  | _ => exact ⟨_, List.mem_singleton_self _, rfl⟩

theorem items_cases (fields : DescriptionFields) :
    (∃ list, items fields = .ok list ∧ Keyed.find? "interactions" fields = some (.array list)) ∨
      ∃ finding, items fields = .error finding ∧ finding.problem.severity = .error := by
  unfold items
  split
  · rename_i list given
    exact Or.inl ⟨list, rfl, given⟩
  · exact Or.inr ⟨_, rfl, rfl⟩
  · exact Or.inr ⟨_, rfl, rfl⟩

/-- Unless there is a list of interactions, there is an error. -/
theorem list_of_no_errors {description : Json} {pact : Pact}
    (named : (contract source maxDepth description).pact = some pact)
    (clean : (contract source maxDepth description).IsClean) :
    description.member? "interactions" = some (.array (itemsOf description)) := by
  cases description with
  | object fields =>
    rcases items_cases fields with ⟨list, _, given⟩ | ⟨finding, unread, severe⟩
    · rw [itemsOf, Json.member?, given]
      rfl
    · rw [contract] at named clean
      dsimp only at named clean
      split at named
      · rename_i consumer provider consumerRead providerRead
        rw [consumerRead, providerRead, unread] at clean
        refine absurd severe (clean finding ?_)
        exact List.mem_append_left _ (List.mem_append_left _
          (List.mem_append_right _ (List.mem_singleton_self _)))
      · cases named
  | _ => cases named

/-! ### Contracts without errors -/

theorem itemReading_gives (source : ExampleSource) (maxDepth position : Nat) (item : Json) :
    Gives (source.part position) maxDepth (Location.interaction position) item
      (itemReading source maxDepth position item) :=
  interaction_gives _ _ _ _

theorem document_of_no_failures {pact : Pact}
    (encoded : ∀ interaction ∈ pact.interactions, interaction.failures = []) :
    pact.document = .ok ⟨pact.consumer, pact.provider, pact.interactions⟩ := by
  have none : pact.failures = [] := by
    refine List.flatMap_eq_nil_iff.mpr fun interaction member => ?_
    rw [encoded interaction member]
    rfl
  rw [Pact.document, none]

section Clean

variable {description : Json} {pact : Pact}

/-- If nothing that is found is an error, nothing is found about an item. -/
theorem findings_itemReading_of_clean
    (named : (contract source maxDepth description).pact = some pact)
    (clean : (contract source maxDepth description).IsClean) {position : Nat} {item : Json}
    (here : (itemsOf description)[position]? = some item) :
    (itemReading source maxDepth position item).findings = [] := by
  refine List.eq_nil_iff_forall_not_mem.mpr fun finding member => ?_
  have severe := ((itemReading_gives _ _ position item).severe_within member).1
  obtain ⟨_, general, all, _⟩ := contract_of_pact named
  have read : itemReading source maxDepth position item ∈
      (itemsOf description).mapIdx (itemReading source maxDepth) := by
    refine List.mem_iff_getElem?.mpr ⟨position, ?_⟩
    rw [List.getElem?_mapIdx, here]
    rfl
  -- The marks of duplicates take no error away.
  have kept : finding ∈ (((itemsOf description).mapIdx (itemReading source maxDepth)).flatMap
      (·.findings)).filter (·.problem.severity = .error) :=
    List.mem_filter.mpr ⟨List.mem_flatMap.mpr ⟨_, read, member⟩, decide_eq_true severe⟩
  rw [← filter_findings_markDuplicates (fun _ _ => rfl) []] at kept
  refine clean finding ?_ severe
  rw [all]
  exact List.mem_append_right _ (List.mem_filter.mp kept).1

theorem interaction_of_clean (named : (contract source maxDepth description).pact = some pact)
    (clean : (contract source maxDepth description).IsClean) :
    ∀ reading ∈ (itemsOf description).mapIdx (itemReading source maxDepth),
      ∃ interaction, reading.interaction = some interaction ∧ interaction.failures = [] := by
  intro reading member
  obtain ⟨position, found, rfl⟩ := List.mem_mapIdx.mp member
  have nothing := findings_itemReading_of_clean named clean (List.getElem?_eq_getElem found)
  obtain ⟨interaction, read, encoded, _⟩ :=
    (itemReading_gives _ _ position _).describes_of_clean nothing
  exact ⟨interaction, read, encoded⟩

theorem failures_of_clean (named : (contract source maxDepth description).pact = some pact)
    (clean : (contract source maxDepth description).IsClean) :
    ∀ interaction ∈ pact.interactions, interaction.failures = [] := by
  intro interaction member
  rw [(contract_of_pact named).1] at member
  obtain ⟨reading, isRead, own⟩ := List.mem_filterMap.mp member
  obtain ⟨other, read, encoded⟩ := interaction_of_clean named clean reading isRead
  obtain rfl := Option.some.inj (own.symm.trans read)
  exact encoded

/-- If nothing that is found is an error, the interactions are in the places of their items. -/
theorem getElem?_interactions_of_clean
    (named : (contract source maxDepth description).pact = some pact)
    (clean : (contract source maxDepth description).IsClean) :
    pact.interactions.length = (itemsOf description).length ∧
      ∀ position item, (itemsOf description)[position]? = some item →
        ∃ interaction, pact.interactions[position]? = some interaction ∧
          Describes (source.part position) maxDepth item interaction := by
  have present : ∀ reading ∈ (itemsOf description).mapIdx (itemReading source maxDepth),
      reading.interaction.isSome = true := by
    intro reading member
    obtain ⟨interaction, read, _⟩ := interaction_of_clean named clean reading member
    rw [read]
    rfl
  rw [(contract_of_pact named).1]
  constructor
  · rw [List.filterMap_length_eq_length.mpr present, List.length_mapIdx]
  · intro position item here
    have nothing := findings_itemReading_of_clean named clean here
    obtain ⟨interaction, read, _, describes⟩ :=
      (itemReading_gives _ _ position item).describes_of_clean nothing
    refine ⟨interaction, ?_, describes⟩
    rw [getElem?_filterMap_of_isSome present, List.getElem?_mapIdx, here]
    exact read

end Clean

/-- A description about which no error is reported gives a document with one interaction for each
item, in their order; it is the one that the item describes, and each is counted. -/
theorem contract_without_errors (source : ExampleSource) (options : CompileOptions)
    (file : String) (report : Report) (description : Json)
    (clean : ∀ issue ∈ ((contract source options.maxDepth description).addTo file
      report).issues.drop report.issues.length, issue.severity ≠ .error) :
    ∃ pact document items,
      (contract source options.maxDepth description).pact = some pact ∧
      pact.document = .ok document ∧
      description.member? "interactions" = some (.array items) ∧
      document.interactions.length = items.length ∧
      (∀ position item, items[position]? = some item →
        ∃ interaction, document.interactions[position]? = some interaction ∧
          Describes (source.part position) options.maxDepth item interaction) ∧
      ((contract source options.maxDepth description).addTo file report).interactionsCompiled =
        report.interactionsCompiled + items.length := by
  rw [DescriptionReading.drop_issues_addTo] at clean
  have clean : (contract source options.maxDepth description).IsClean :=
    fun finding member => clean _ (List.mem_map_of_mem member)
  cases named : (contract source options.maxDepth description).pact with
  | none =>
    obtain ⟨finding, member, severe⟩ := error_of_no_pact named
    exact absurd severe (clean finding member)
  | some pact =>
    have encoded := failures_of_clean named clean
    obtain ⟨length, places⟩ := getElem?_interactions_of_clean named clean
    refine ⟨pact, _, itemsOf description, rfl, document_of_no_failures encoded,
      list_of_no_errors named clean, length, places, ?_⟩
    have counted : pact.interactions.filter (·.failures.isEmpty) = pact.interactions :=
      List.filter_eq_self.mpr fun interaction member => by
        rw [encoded interaction member]
        rfl
    rw [DescriptionReading.interactionsCompiled_addTo, DescriptionReading.compiledCount, named,
      ← length]
    exact congrArg (report.interactionsCompiled + ·) (congrArg List.length counted)

/-- A description with two items, neither of which is in the place of the other. -/
theorem contract_without_errors_of_users :
    let source : ExampleSource := ⟨fun _ => 0, default⟩
    let options : CompileOptions := {}
    let item (description method : String) (status : Nat) := Json.object
      [("description", .string description),
        ("request", .object [("method", .string method), ("path", .string "/users")]),
        ("response", .object [("status", .ofNat status)])]
    let description := Json.object [("consumer", .string "app"),
      ("interactions", .array [item "users" "get" 200, item "a user" "Post" 201]),
      ("provider", .string "api")]
    let after := (contract source options.maxDepth description).addTo "app.json" .empty
    (∀ issue ∈ after.issues.drop Report.empty.issues.length, issue.severity ≠ .error) ∧
      ∃ pact document, (contract source options.maxDepth description).pact = some pact ∧
        pact.document = .ok document ∧
          (∃ first second, document.interactions = [first, second] ∧
            Describes (source.part 0) options.maxDepth (item "users" "get" 200) first ∧
              Describes (source.part 1) options.maxDepth (item "a user" "Post" 201) second) ∧
            after.interactionsCompiled = 2 := by
  intro source options item description after
  have none : after.issues = [] := by decide +kernel
  have clean : ∀ issue ∈ after.issues.drop Report.empty.issues.length, issue.severity ≠ .error := by
    rw [none]
    nofun
  obtain ⟨pact, document, items, named, finished, given, length, places, compiled⟩ :=
    contract_without_errors source options "app.json" .empty description clean
  obtain rfl : [item "users" "get" 200, item "a user" "Post" 201] = items :=
    Json.array.inj (Option.some.inj given)
  obtain ⟨first, placed, describes⟩ := places 0 _ rfl
  obtain ⟨second, placed', describes'⟩ := places 1 _ rfl
  obtain ⟨_, _, both⟩ := List.length_eq_two.mp length
  rw [both] at placed placed'
  cases placed
  cases placed'
  exact ⟨clean, pact, document, named, finished, ⟨_, _, both, describes, describes'⟩, compiled⟩

end Description

end ConsumerContract
