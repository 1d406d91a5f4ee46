/-
This file proves that each item of a description is accounted for. It gives an
interaction that can be encoded, an interaction with failures, or faults of its shape;
the interactions of a pact are those of the items, in their order, and the new issues of
a report are about the items. Apart from warnings about descriptions that occur twice,
what is read from an item and what is reported about it depend on nothing but the item
and its position.
-/

import ConsumerContract.Proofs.Contracts

namespace ConsumerContract

/-! ### Lists that are made item by item -/

section Lists

variable {α β γ : Type}

theorem map_mapIdx (make : Nat → α → β) (change : β → γ) (items : List α) :
    (items.mapIdx make).map change =
      items.mapIdx fun position item => change (make position item) := by
  rw [List.mapIdx_eq_zipIdx_map, List.mapIdx_eq_zipIdx_map, List.map_map]
  rfl

/-- Of what is made from all items, a property that says from which item it is made leaves what is
made from that item. -/
theorem filter_flatten_mapIdx {items : List α} {make : Nat → α → List β} {keeps : β → Bool}
    {position : Nat} {item : α} (here : items[position]? = some item)
    (own : ∀ made ∈ make position item, keeps made = true)
    (others : ∀ other value, other ≠ position → ∀ made ∈ make other value, keeps made = false) :
    (items.mapIdx make).flatten.filter keeps = make position item := by
  induction items generalizing make position with
  | nil => cases here
  | cons first rest inductionHypothesis =>
    rw [List.mapIdx_cons, List.flatten_cons, List.filter_append]
    cases position with
    | zero =>
      obtain rfl := Option.some.inj here
      have behind :
          (rest.mapIdx fun position => make (position + 1)).flatten.filter keeps = [] := by
        refine List.filter_eq_nil_iff.mpr fun made member => ?_
        obtain ⟨part, isPart, member⟩ := List.mem_flatten.mp member
        obtain ⟨other, found, rfl⟩ := List.mem_mapIdx.mp isPart
        rw [others (other + 1) _ (Nat.succ_ne_zero other) made member]
        exact Bool.false_ne_true
      rw [behind, List.append_nil]
      exact List.filter_eq_self.mpr own
    | succ position =>
      have front : (make 0 first).filter keeps = [] :=
        List.filter_eq_nil_iff.mpr fun made member => by
          rw [others 0 first (Nat.succ_ne_zero position).symm made member]
          exact Bool.false_ne_true
      rw [front, List.nil_append]
      exact inductionHypothesis here own fun other value apart =>
        others (other + 1) value fun same => apart (Nat.succ.inj same)

theorem forall₂_flatten_mapIdx {items : List α} {first : Nat → α → List β}
    {second : Nat → α → List γ} {related : β → γ → Prop}
    (each : ∀ position item, items[position]? = some item →
      List.Forall₂ related (first position item) (second position item)) :
    List.Forall₂ related (items.mapIdx first).flatten (items.mapIdx second).flatten := by
  induction items generalizing first second with
  | nil => exact .nil
  | cons item rest inductionHypothesis =>
    rw [List.mapIdx_cons, List.mapIdx_cons, List.flatten_cons, List.flatten_cons]
    exact List.rel_append (each 0 item rfl)
      (inductionHypothesis fun position item found => each (position + 1) item found)

end Lists

/-! ### Codes -/

/-- The codes for values that can not be encoded. -/
def encodingCodes : List String :=
  ["E010", "E011", "E012", "E013", "E014", "E015"]

theorem FailureReason.code_mem (reason : FailureReason) : reason.code ∈ encodingCodes := by
  cases reason <;> simp [code, encodingCodes]

theorem DescriptionProblem.ConcernsShape.code_not_mem {problem : DescriptionProblem}
    (shape : problem.ConcernsShape) : problem.code ∉ encodingCodes := by
  have codes : ∀ code ∈ shapeCodes, code ∉ encodingCodes := by decide
  exact codes _ shape.code_mem

theorem DescriptionProblem.code_ne_of_severe {problem : DescriptionProblem}
    (severe : problem.severity = .error) : problem.code ≠ "W002" := by
  cases problem with
  | duplicateDescription | noInteractions => cases severe
  | notEncoded failure =>
    have codes : ∀ code ∈ encodingCodes, code ≠ "W002" := by decide
    exact codes _ failure.reason.code_mem
  | _ => simp [code]

theorem Finding.Reports.code_mem {place : String} {finding : Finding}
    {failed : String × EncodingFailure} (reports : finding.Reports place failed) :
    finding.problem.code ∈ encodingCodes := by
  have coded : finding.problem.code = failed.2.reason.code :=
    congrArg DescriptionProblem.code reports.1
  rw [coded]
  exact failed.2.reason.code_mem

/-- The issue is about the item at a position, and no warning that its description occurs twice. -/
def Issue.isAbout (position : Nat) (issue : Issue) : Bool :=
  issue.code ≠ "W002" && issue.location.any (Location.isWithin (Location.interaction position))

namespace Description

variable {source : ExampleSource} {maxDepth : Nat}

/-! ### Every item is accounted for -/

/-- What becomes of an item. -/
inductive Outcome where
  | compiled
  | failed
  | refused
  deriving DecidableEq

/-- The item at a position, of which this interaction is in the pact, has the outcome. -/
def Outcome.Holds (added : List Issue) (position : Nat) : Outcome → Option Interaction → Prop
  | compiled, some interaction => interaction.failures = []
  | failed, some interaction =>
    interaction.failures.length = 1 ∨ interaction.failures.length = 2
  | refused, none =>
    ∃ issue ∈ added, issue.severity = .error ∧ issue.code ∈ shapeCodes ∧
      ∃ inner, issue.location = some inner ∧
        Location.isWithin (Location.interaction position) inner = true
  | _, _ => False

/-- A failure of a message of the item at a position. -/
structure FailedMessage where
  position : Nat
  /-- The field of the message. -/
  field : String
  failure : EncodingFailure

/-- The issue is about the failure, at a place inside the message. -/
structure FailedMessage.IsReportedBy (issue : Issue) (failed : FailedMessage) : Prop where
  severity : issue.severity = .error
  code : issue.code = failed.failure.reason.code
  location : ∃ rest, issue.location = some
    (Location.field (Location.field (Location.interaction failed.position) failed.field) rest)

/-- The failures of the interaction that is read from an item. -/
def itemFailures (source : ExampleSource) (maxDepth position : Nat) (item : Json) :
    List FailedMessage :=
  match (itemReading source maxDepth position item).interaction with
  | none => []
  | some interaction => interaction.failedMessages.map fun (field, failure) =>
    { position, field, failure }

/-- Each item is in the pact or refused, and the added issues are about the items. -/
structure AccountsFor (source : ExampleSource) (maxDepth : Nat) (file : String)
    (items : List Json) (pact : Pact) (added : List Issue) : Prop where
  /-- Interactions are in the order of their items. -/
  order : pact.interactions =
    (items.mapIdx (itemReading source maxDepth)).filterMap (·.interaction)
  outcome : ∀ position item, items[position]? = some item → ∃! outcome : Outcome,
    outcome.Holds added position (itemReading source maxDepth position item).interaction
  /-- All failures of the interactions are those of the request and of the response. -/
  stored : ∀ interaction ∈ pact.interactions,
    interaction.failedMessages.map Prod.snd = interaction.failures
  reported : List.Forall₂ (fun issue failed => failed.IsReportedBy issue)
    (added.filter (·.code ∈ encodingCodes))
    (items.mapIdx (itemFailures source maxDepth)).flatten
  /-- The issues about an item are those of its own reading, whatever the others are. -/
  own : ∀ position item, items[position]? = some item →
    added.filter (·.isAbout position) =
      (itemReading source maxDepth position item).findings.map (·.issue file)

section Accounts

variable {description : Json} {pact : Pact}

/-- The issues with some property, if it does not hold of those about the list as a whole and of
warnings about duplicates. -/
theorem filter_issues_of_pact (named : (contract source maxDepth description).pact = some pact)
    (file : String) {keeps : Issue → Bool}
    (general : ∀ finding, IsAboutList finding → keeps (finding.issue file) = false)
    (skips : ∀ place description,
      keeps ((Finding.located place (.duplicateDescription description)).issue file) = false) :
    ((contract source maxDepth description).findings.map (·.issue file)).filter keeps =
      (((itemsOf description).mapIdx fun position item =>
        (itemReading source maxDepth position item).findings.map (·.issue file)).flatten).filter
          keeps := by
  obtain ⟨_, front, all, aboutList⟩ := contract_of_pact named
  have skipped : front.filter (keeps ∘ (·.issue file)) = [] :=
    List.filter_eq_nil_iff.mpr fun finding member => by
      rw [Function.comp_apply, general finding (aboutList finding member)]
      exact Bool.false_ne_true
  rw [List.filter_map, all, List.filter_append, skipped, List.nil_append,
    filter_findings_markDuplicates skips, ← List.filter_map, List.flatMap_def, map_mapIdx,
    List.map_flatten, map_mapIdx]

theorem code_not_mem_of_isAboutList {finding : Finding} (about : IsAboutList finding) :
    finding.problem.code ∉ encodingCodes := by
  rcases about.1 with same | same | same
  all_goals
    rw [same]
    decide

theorem not_isAbout_of_isAboutList {finding : Finding} (about : IsAboutList finding)
    (file : String) (position : Nat) : (finding.issue file).isAbout position = false := by
  have outside : Location.isWithin (Location.interaction position) "interactions" = false := by
    refine Bool.eq_false_iff.mpr fun within => ?_
    obtain ⟨rest, written⟩ := Location.toList_of_isWithin_interaction within
    have longer := congrArg List.length written
    rw [List.length_append] at longer
    exact absurd longer (Nat.ne_of_lt (Nat.lt_add_right _ (by decide)))
  have located : (finding.issue file).location.any
      (Location.isWithin (Location.interaction position)) = false := by
    rcases about.2 with same | same
    · exact congrArg (Option.any _) same
    · exact (congrArg (Option.any _) same).trans outside
  rw [Issue.isAbout, located, Bool.and_false]

/-- The findings about an item are about no other item. -/
theorem isAbout_itemReading {position other : Nat} {item : Json} {finding : Finding}
    (member : finding ∈ (itemReading source maxDepth position item).findings) (file : String) :
    (finding.issue file).isAbout other = decide (position = other) := by
  have gives := itemReading_gives source maxDepth position item
  obtain ⟨severe, inner, located, within⟩ := gives.severe_within member
  have coded : decide ((finding.issue file).code ≠ "W002") = true :=
    decide_eq_true (DescriptionProblem.code_ne_of_severe severe)
  have place : (finding.issue file).location = some inner := located
  rw [Issue.isAbout, coded, Bool.true_and, place, Option.any_some, Bool.eq_iff_iff,
    decide_eq_true_iff]
  constructor
  · exact Location.isWithin_interaction_unique within
  · rintro rfl
    exact within

/-- The issues about an item are those of its own reading. -/
theorem isAbout_issues (named : (contract source maxDepth description).pact = some pact)
    (file : String) {position : Nat} {item : Json}
    (here : (itemsOf description)[position]? = some item) :
    ((contract source maxDepth description).findings.map (·.issue file)).filter
        (·.isAbout position) =
      (itemReading source maxDepth position item).findings.map (·.issue file) := by
  rw [filter_issues_of_pact named file
    (fun finding about => not_isAbout_of_isAboutList about file position) (fun _ _ => rfl)]
  refine filter_flatten_mapIdx here ?_ ?_
  · intro issue isOwn
    obtain ⟨finding, member, rfl⟩ := List.mem_map.mp isOwn
    rw [isAbout_itemReading member]
    exact decide_eq_true rfl
  · intro other value apart issue isOther
    obtain ⟨finding, member, rfl⟩ := List.mem_map.mp isOther
    rw [isAbout_itemReading member]
    exact decide_eq_false apart

/-- Among the issues about one item, those with codes for encoding are its failures. -/
theorem itemFailures_reported (position : Nat) (item : Json) (file : String) :
    List.Forall₂ (fun issue failed => failed.IsReportedBy issue)
      (((itemReading source maxDepth position item).findings.map (·.issue file)).filter
        (·.code ∈ encodingCodes))
      (itemFailures source maxDepth position item) := by
  have gives := itemReading_gives source maxDepth position item
  rw [itemFailures]
  cases pushed : (itemReading source maxDepth position item).interaction with
  | none =>
    obtain ⟨_, faults⟩ := gives.faults pushed
    have kept : ((itemReading source maxDepth position item).findings.map (·.issue file)).filter
        (·.code ∈ encodingCodes) = [] := by
      refine List.filter_eq_nil_iff.mpr fun issue isOwn => ?_
      obtain ⟨finding, member, rfl⟩ := List.mem_map.mp isOwn
      exact fun coded => (faults finding member).shape.code_not_mem (of_decide_eq_true coded)
    rw [kept]
    exact .nil
  | some interaction =>
    have reports := gives.reportsFailures pushed
    have kept : ((itemReading source maxDepth position item).findings.map (·.issue file)).filter
        (·.code ∈ encodingCodes) =
          (itemReading source maxDepth position item).findings.map (·.issue file) := by
      refine List.filter_eq_self.mpr fun issue isOwn => ?_
      obtain ⟨finding, member, rfl⟩ := List.mem_map.mp isOwn
      obtain ⟨failed, own⟩ := reports.of_mem finding member
      exact decide_eq_true own.code_mem
    rw [kept, List.forall₂_map_left_iff, List.forall₂_map_right_iff]
    refine reports.each.imp fun finding failed own => ?_
    obtain ⟨encoding, rest, located⟩ := own
    exact ⟨congrArg DescriptionProblem.severity encoding, congrArg DescriptionProblem.code encoding,
      rest, located⟩

theorem failures_reported (named : (contract source maxDepth description).pact = some pact)
    (file : String) :
    List.Forall₂ (fun issue failed => failed.IsReportedBy issue)
      (((contract source maxDepth description).findings.map (·.issue file)).filter
        (·.code ∈ encodingCodes))
      ((itemsOf description).mapIdx (itemFailures source maxDepth)).flatten := by
  rw [filter_issues_of_pact named file
    (fun finding about => decide_eq_false (code_not_mem_of_isAboutList about))
    (fun _ _ => rfl), List.filter_flatten, map_mapIdx]
  exact forall₂_flatten_mapIdx fun position item _ => itemFailures_reported position item file

theorem existsUnique_outcome_of_few {interaction : Interaction} (added : List Issue)
    (position : Nat) (few : interaction.failures.length ≤ 2) :
    ∃! outcome : Outcome, outcome.Holds added position (some interaction) := by
  by_cases clean : interaction.failures = []
  · refine ⟨.compiled, clean, fun outcome holds => ?_⟩
    cases outcome with
    | compiled => rfl
    | failed =>
      have one : interaction.failures.length = 1 ∨ interaction.failures.length = 2 := holds
      rw [clean, List.length_nil] at one
      omega
    | refused => exact holds.elim
  · have some : 0 < interaction.failures.length := List.length_pos_iff.mpr clean
    have one : interaction.failures.length = 1 ∨ interaction.failures.length = 2 := by omega
    refine ⟨.failed, one, fun outcome holds => ?_⟩
    cases outcome with
    | compiled => exact absurd holds clean
    | failed => rfl
    | refused => exact holds.elim

/-- An item has exactly one outcome. -/
theorem existsUnique_outcome (named : (contract source maxDepth description).pact = some pact)
    (file : String) {position : Nat} {item : Json}
    (here : (itemsOf description)[position]? = some item) :
    ∃! outcome : Outcome, outcome.Holds
      ((contract source maxDepth description).findings.map (·.issue file)) position
        (itemReading source maxDepth position item).interaction := by
  have gives := itemReading_gives source maxDepth position item
  cases pushed : (itemReading source maxDepth position item).interaction with
  | some interaction =>
    exact existsUnique_outcome_of_few _ position (gives.reportsFailures pushed).few
  | none =>
    -- One of the faults of shape is among the issues that are added.
    obtain ⟨some, faults⟩ := gives.faults pushed
    obtain ⟨finding, member⟩ := List.exists_mem_of_ne_nil _ some
    obtain ⟨shape, within⟩ := faults finding member
    have reported : finding.issue file ∈
        (itemReading source maxDepth position item).findings.map (·.issue file) :=
      List.mem_map_of_mem member
    rw [← isAbout_issues named file here] at reported
    refine ⟨.refused, ⟨_, (List.mem_filter.mp reported).1, shape.severity_eq, shape.code_mem,
      within⟩, fun outcome holds => ?_⟩
    cases outcome with
    | refused => rfl
    | _ => exact holds.elim

end Accounts

/-- What a description that gives a pact adds to a report accounts for each of its items: every
item is compiled and counted, or in the pact with failures, or refused with an error; the failures
are reported one by one and in order; and no item changes what is read from another. -/
theorem contract_accountsFor (source : ExampleSource) (options : CompileOptions) (file : String)
    (report : Report) (description : Json) (pact : Pact)
    (named : (contract source options.maxDepth description).pact = some pact) :
    let items := itemsOf description
    let after := (contract source options.maxDepth description).addTo file report
    (∃ added, after.issues = report.issues ++ added ∧
        AccountsFor source options.maxDepth file items pact added) ∧
      after.interactionsCompiled = report.interactionsCompiled +
        (items.mapIdx (itemReading source options.maxDepth)).countP fun reading =>
          reading.interaction.any (·.failures.isEmpty) := by
  intro items after
  obtain ⟨pushed, _⟩ := contract_of_pact named
  refine ⟨⟨_, DescriptionReading.issues_addTo _ _ _, pushed,
    fun position item here => existsUnique_outcome named file here, ?_,
    failures_reported named file, fun position item here => isAbout_issues named file here⟩, ?_⟩
  · intro interaction member
    rw [pushed] at member
    obtain ⟨reading, isRead, own⟩ := List.mem_filterMap.mp member
    obtain ⟨position, found, rfl⟩ := List.mem_mapIdx.mp isRead
    exact ((itemReading_gives _ _ position _).reportsFailures own).all
  · rw [DescriptionReading.interactionsCompiled_addTo, DescriptionReading.compiledCount, named]
    dsimp only
    have counts : (fun reading : ItemReading =>
        (reading.interaction.map (·.failures.isEmpty)).getD false) =
          fun reading => reading.interaction.any (·.failures.isEmpty) :=
      funext fun reading => by cases reading.interaction <;> rfl
    rw [pushed, ← List.countP_eq_length_filter, List.countP_filterMap, counts]

/-- A description with one item that has no request, one that is compiled, and one with a body of
an unknown kind. -/
theorem contract_accountsFor_of_users :
    let source : ExampleSource := ⟨fun _ => 0, default⟩
    let options : CompileOptions := {}
    let request := Json.object [("method", .string "get"), ("path", .string "/users")]
    let unknown := Json.object [("pact:matcher:type", .string "unknown")]
    let items := [
      Json.object [("description", .string "none"), ("response", .object [("status", .ofNat 200)])],
      .object [("description", .string "users"), ("request", request),
        ("response", .object [("status", .ofNat 200)])],
      .object [("description", .string "body"), ("request", request),
        ("response", .object [("body", unknown), ("status", .ofNat 200)])]]
    let description := Json.object [("consumer", .string "app"), ("interactions", .array items),
      ("provider", .string "api")]
    let after := (contract source options.maxDepth description).addTo "app.json" .empty
    ∃ pact, (contract source options.maxDepth description).pact = some pact ∧
      (∃ added, after.issues = [] ++ added ∧
        AccountsFor source options.maxDepth "app.json" items pact added) ∧
      after.interactionsCompiled = 1 := by
  intro source options request unknown items description after
  refine ⟨_, rfl, ?_⟩
  have accounts := contract_accountsFor source options "app.json" .empty description _ rfl
  exact ⟨accounts.1, accounts.2⟩

end Description

end ConsumerContract
