/-
This file compares compilations of one tree within different limits. The compiler visits the nodes
of a tree in one order whatever the limit is, and looks at the limit only where it enters a node.
So a compilation within a smaller limit does the same as one within a larger limit, up to the first
node that lies too deep for it, where it ends. It can end so only if the tree is higher than the
limit, and it can succeed only if the tree is not, because every node of a tree that is compiled
has been entered.

Each tree therefore has one threshold: the least limit that is not reported as exceeded. Below it
the limit is always exceeded, and from there on the limit no longer matters.
-/

import Mathlib.Data.Nat.Find
import Mathlib.Order.MinMax
import ConsumerContract.Proofs.Failures

namespace ConsumerContract

/-- The failure is not that a limit was exceeded. -/
def EncodingFailure.IsOwn (failure : EncodingFailure) : Prop :=
  ∀ limit, failure.reason ≠ .depthExceeded limit

/-- The first outcome, within the limit, is the second one, within a higher limit, unless it was cut
short. The nodes that are entered lie at most at the level: work is cut short only if that is deeper
than the limit, and it is done only if it is not. -/
inductive CutAt {α : Type} (limit level : Nat) :
    Except EncodingFailure α → Except EncodingFailure α → Prop
  | cut {failure : EncodingFailure} (reason : failure.reason = .depthExceeded limit)
      (deep : limit < level) (other : Except EncodingFailure α) :
      CutAt limit level (.error failure) other
  | refused {failure : EncodingFailure} (own : failure.IsOwn) :
      CutAt limit level (.error failure) (.error failure)
  | done (fits : level ≤ limit) (value : α) : CutAt limit level (.ok value) (.ok value)

namespace CutAt

variable {α β : Type} {limit level other : Nat} {first second : Except EncodingFailure α}

theorem of_eq (cut : CutAt limit other first second) (same : level = other) :
    CutAt limit level first second :=
  same ▸ cut

/-- What is done with one value is cut short if that lies too deep, or the first part does. -/
theorem bind {next next' : α → Except EncodingFailure β} (begun : CutAt limit level first second)
    (continued : ∀ value, CutAt limit other (next value) (next' value)) :
    CutAt limit (max level other) (first >>= next) (second >>= next') := by
  cases begun with
  | cut reason deep => exact .cut reason (lt_max_of_lt_left deep) _
  | refused own => exact .refused own
  | done fits value =>
    have rest := continued value
    change CutAt limit (max level other) (next value) (next' value)
    generalize next value = early, next' value = late at rest
    cases rest with
    | cut reason deep => exact .cut reason (lt_max_of_lt_right deep) _
    | refused own => exact .refused own
    | done below value => exact .done (max_le fits below) value

/-- A failure that is told in other words keeps its reason. -/
theorem mapError {told : EncodingFailure → EncodingFailure}
    (reason : ∀ failure, (told failure).reason = failure.reason)
    (cut : CutAt limit level first second) :
    CutAt limit level (first.mapError told) (second.mapError told) := by
  cases cut with
  | cut same deep => exact .cut ((reason _).trans same) deep _
  | refused own => exact .refused fun limit same => own limit ((reason _).symm.trans same)
  | done fits value => exact .done fits value

/-- Work that enters no node is never cut short. -/
theorem of_own {outcome : Except EncodingFailure α}
    (own : ∀ failure, outcome = .error failure → failure.IsOwn) :
    CutAt limit 0 outcome outcome := by
  cases outcome with
  | error failure => exact .refused (own failure rfl)
  | ok value => exact .done (Nat.zero_le limit) value

/-- A check in front enters no node. -/
theorem after_check {checked : Except EncodingFailure β}
    (own : ∀ failure, checked = .error failure → failure.IsOwn)
    {next next' : β → Except EncodingFailure α}
    (continued : ∀ value, CutAt limit level (next value) (next' value)) :
    CutAt limit level (checked >>= next) (checked >>= next') :=
  ((of_own own).bind continued).of_eq (Nat.zero_max level).symm

/-- Nothing that comes behind enters a node. -/
theorem then_own (begun : CutAt limit level first second) {next : α → Except EncodingFailure β}
    (own : ∀ value failure, next value = .error failure → failure.IsOwn) :
    CutAt limit level (first >>= next) (second >>= next) :=
  (begun.bind fun value => of_own (own value)).of_eq (Nat.max_zero level).symm

theorem then_ok (begun : CutAt limit level first second) (finish : α → β) :
    CutAt limit level (first >>= fun value => .ok (finish value))
      (second >>= fun value => .ok (finish value)) :=
  begun.then_own nofun

end CutAt

/-! ### Checks -/

theorem FailureReason.ConcernsPattern.isOwn {failure : EncodingFailure}
    (concerns : failure.reason.ConcernsPattern) : failure.IsOwn := by
  intro limit same
  rw [same] at concerns
  exact concerns

theorem Declared.isOwn_collision (part : Node) (path : String) : (collision part path).IsOwn :=
  nofun

theorem Declared.isOwn_of_join {shared : Bool} {declared added : Declared} {part : Node}
    {failure : EncodingFailure} (refused : declared.join shared part added = .error failure) :
    failure.IsOwn := by
  unfold join at refused
  repeat' split at refused
  · cases refused
  · exact Except.error.inj refused ▸ isOwn_collision part _
  · exact Except.error.inj refused ▸ isOwn_collision part _
  · cases refused

theorem Compiled.isOwn_of_withGenerator {compiled : Compiled} {path : Path} {own : Generator}
    {sample : Node} {failure : EncodingFailure}
    (refused : compiled.withGenerator path own sample = .error failure) : failure.IsOwn := by
  rw [withGenerator_eq] at refused
  split at refused
  · exact Except.error.inj refused ▸ Declared.isOwn_collision sample _
  · cases refused

theorem Scalar.isOwn_of_toJson {value : Scalar} {path : Path} {failure : EncodingFailure}
    (refused : value.toJson path = .error failure) : failure.IsOwn := by
  cases value with
  | float number =>
    rw [toJson] at refused
    split at refused
    · cases refused
    · intro limit same
      rw [← Except.error.inj refused] at same
      cases same
  | _ => cases refused

theorem Node.isOwn_of_rejectMatcher {sample : Node} {path : Path} {failure : EncodingFailure}
    (refused : sample.rejectMatcher path = .error failure) : failure.IsOwn := by
  intro limit same
  cases (rejectMatcher_error refused).2.2.symm.trans same

namespace Node

/-! ### Two compilations of a tree -/

/-- A compilation within a limit is that within a higher one, or it is cut short at a node which
lies too deep. -/
def IsCutAtHeight (node : Node) : Prop :=
  ∀ {limit higher depth : Nat} {element : Element} {path : Path} {repeated : Bool},
    limit ≤ higher → CutAt limit (depth + node.height)
      (compileAt limit element path repeated depth node)
      (compileAt higher element path repeated depth node)

theorem isCutAtHeight_of_within {node : Node}
    (entered : ∀ {limit higher depth : Nat} {element : Element} {path : Path} {repeated : Bool},
      limit ≤ higher → depth ≤ limit → CutAt limit (depth + node.height)
        (compileAt limit element path repeated depth node)
        (compileAt higher element path repeated depth node)) : node.IsCutAtHeight := by
  intro limit higher depth element path repeated below
  by_cases within : depth ≤ limit
  · exact entered below within
  · have deep := Nat.not_le.mp within
    rw [compileAt_of_lt deep]
    exact .cut rfl (Nat.lt_add_right _ deep) _

section Parts

variable {limit higher depth : Nat} {element : Element} {path : Path}

theorem compileItems_cutAt (below : limit ≤ higher) (within : depth ≤ limit) {items : List Node}
    (each : ∀ item ∈ items, item.IsCutAtHeight) {shared : Bool} {position : Nat}
    {declared : Declared} :
    CutAt limit (depth + levelsOfItems items)
      (compileItems limit element path shared depth position declared items)
      (compileItems higher element path shared depth position declared items) := by
  induction items generalizing position declared with
  | nil => exact .done within _
  | cons item rest inductionHypothesis =>
    obtain ⟨first, others⟩ := List.forall_mem_cons.mp each
    have level : depth + levelsOfItems (item :: rest) =
        max (depth + 1 + item.height) (depth + levelsOfItems rest) := by
      rw [levelsOfItems]
      omega
    rw [compileItems_cons, compileItems_cons, level]
    refine (first below).bind fun compiled => ?_
    refine .after_check (fun failure => Declared.isOwn_of_join) fun joined => ?_
    exact (inductionHypothesis others).then_ok _

theorem compileMembers_cutAt (below : limit ≤ higher) (within : depth ≤ limit)
    {members : List (String × Node)}
    (each : ∀ key member, (key, member) ∈ members → member.IsCutAtHeight) {declared : Declared} :
    CutAt limit (depth + levelsOfMembers members)
      (compileMembers limit element path depth declared members)
      (compileMembers higher element path depth declared members) := by
  induction members generalizing declared with
  | nil => exact .done within _
  | cons entry rest inductionHypothesis =>
    obtain ⟨key, member⟩ := entry
    have level : depth + levelsOfMembers ((key, member) :: rest) =
        max (depth + 1 + member.height) (depth + levelsOfMembers rest) := by
      rw [levelsOfMembers]
      omega
    rw [compileMembers_cons, compileMembers_cons, level]
    refine (each key member List.mem_cons_self below).bind fun compiled => ?_
    refine .after_check (fun failure => Declared.isOwn_of_join) fun joined => ?_
    exact (inductionHypothesis fun key other inRest =>
      each key other (List.mem_cons_of_mem _ inRest)).then_ok _

theorem compileVariants_cons (position : Nat) (variant : Node) (rest : List Node) :
    compileVariants limit path depth position (variant :: rest) =
      (compileAt limit .body .body false (depth + 1) variant).mapError (fun failure =>
          { failure with path := failure.path.below (path.child (.index position)) }) >>=
        fun compiled => compileVariants limit path depth (position + 1) rest >>= fun result =>
          .ok (⟨position, compiled.rules, compiled.generators⟩ :: result.1,
            compiled.value :: result.2) := by
  cases first : compileAt limit .body .body false (depth + 1) variant with
  | error failure => exact compileVariants_cons_error first rest
  | ok compiled => exact compileVariants_cons_ok first rest

theorem compileVariants_cutAt (below : limit ≤ higher) (within : depth ≤ limit)
    {variants : List Node} (each : ∀ variant ∈ variants, variant.IsCutAtHeight)
    {position : Nat} :
    CutAt limit (depth + levelsOfItems variants)
      (compileVariants limit path depth position variants)
      (compileVariants higher path depth position variants) := by
  induction variants generalizing position with
  | nil => exact .done within _
  | cons variant rest inductionHypothesis =>
    obtain ⟨first, others⟩ := List.forall_mem_cons.mp each
    have level : depth + levelsOfItems (variant :: rest) =
        max (depth + 1 + variant.height) (depth + levelsOfItems rest) := by
      rw [levelsOfItems]
      omega
    rw [compileVariants_cons, compileVariants_cons, level]
    refine .bind (.mapError ?_ (first below)) fun compiled => ?_
    · exact fun failure => rfl
    · exact (inductionHypothesis others).then_ok _

end Parts

theorem isCutAtHeight (node : Node) : node.IsCutAtHeight := by
  induction node with
  | scalar value =>
    refine isCutAtHeight_of_within fun {_ _ _ _ path _} below within => ?_
    rw [compileAt_scalar within, compileAt_scalar (within.trans below)]
    cases read : value.toJson path with
    | error failure => exact .refused (Scalar.isOwn_of_toJson read)
    | ok json => exact .done within _
  | sequence items each =>
    refine isCutAtHeight_of_within fun below within => ?_
    rw [compileAt_sequence within, compileAt_sequence (within.trans below)]
    exact (compileItems_cutAt below within each).then_ok _
  | mapping members each =>
    refine isCutAtHeight_of_within fun below within => ?_
    rw [compileAt_mapping within, compileAt_mapping (within.trans below)]
    exact (compileMembers_cutAt below within each).then_ok _
  | matcher rules combine sample inductionHypothesis =>
    refine isCutAtHeight_of_within fun below within => ?_
    rw [compileAt_matcher within, compileAt_matcher (within.trans below)]
    refine .after_check (fun failure => isOwn_of_rejectMatcher) fun _ => ?_
    refine .after_check (fun failure refused => (Rule.checkAll_error refused).2.isOwn) fun _ => ?_
    exact ((inductionHypothesis below).then_ok _).of_eq (Nat.succ_add_eq_add_succ _ _).symm
  | repetition collection min max inductionHypothesis =>
    refine isCutAtHeight_of_within fun below within => ?_
    cases shape : collection.anyPart? with
    | none =>
      rw [compileAt_repetition_none within shape,
        compileAt_repetition_none (within.trans below) shape]
      exact .refused nofun
    | some step =>
      rw [compileAt_repetition within shape, compileAt_repetition (within.trans below) shape]
      exact ((inductionHypothesis below).then_ok _).of_eq (Nat.succ_add_eq_add_succ _ _).symm
  | arrayContains variants each =>
    refine isCutAtHeight_of_within fun below within => ?_
    rw [compileAt_arrayContains within, compileAt_arrayContains (within.trans below)]
    exact (compileVariants_cutAt below within each).then_ok _
  | generator declaration sample inductionHypothesis =>
    refine isCutAtHeight_of_within fun below within => ?_
    rw [compileAt_generator within, compileAt_generator (within.trans below)]
    refine .after_check (fun failure refused => (Generator.check_error refused).2.isOwn) fun _ => ?_
    refine ((inductionHypothesis below).then_own fun inner failure => ?_).of_eq
      (Nat.succ_add_eq_add_succ _ _).symm
    exact Compiled.isOwn_of_withGenerator
  | composite rule declaration sample inductionHypothesis =>
    refine isCutAtHeight_of_within fun below within => ?_
    rw [compileAt_composite within, compileAt_composite (within.trans below)]
    refine .after_check (fun failure => isOwn_of_rejectMatcher) fun _ => ?_
    refine .after_check (fun failure refused => (Rule.check_error refused).2.isOwn) fun _ => ?_
    refine .after_check (fun failure refused => (Generator.check_error refused).2.isOwn) fun _ => ?_
    refine ((inductionHypothesis below).then_own fun inner failure => ?_).of_eq
      (Nat.succ_add_eq_add_succ _ _).symm
    exact Compiled.isOwn_of_withGenerator
  | invalid description problem =>
    refine isCutAtHeight_of_within fun below within => ?_
    rw [compileAt_invalid within, compileAt_invalid (within.trans below)]
    cases problem with
    | none => exact .refused nofun
    | some text => exact .refused nofun

/-! ### The threshold -/

/-- The outcome is not that the limit was exceeded. -/
def HasOwnOutcome (node : Node) (element : Element) (path : Path) (repeated : Bool)
    (maxDepth : Nat) : Prop :=
  ∀ failure, node.compile element path repeated maxDepth = .error failure → failure.IsOwn

section Threshold

variable {node : Node} {element : Element} {path : Path} {repeated : Bool} {maxDepth higher : Nat}

theorem compile_cutAt (node : Node) (element : Element) (path : Path) (repeated : Bool)
    (below : maxDepth ≤ higher) :
    CutAt maxDepth node.height (node.compile element path repeated maxDepth)
      (node.compile element path repeated higher) :=
  (isCutAtHeight node below).of_eq (Nat.zero_add _).symm

/-- A limit that was not exceeded does not matter. -/
theorem compile_eq_of_hasOwnOutcome (own : node.HasOwnOutcome element path repeated maxDepth)
    (below : maxDepth ≤ higher) :
    node.compile element path repeated higher = node.compile element path repeated maxDepth := by
  have cut := compile_cutAt node element path repeated below
  unfold HasOwnOutcome at own
  generalize node.compile element path repeated maxDepth = outcome at own cut ⊢
  generalize node.compile element path repeated higher = outcome' at cut ⊢
  cases cut with
  | cut reason => exact absurd reason (own _ rfl _)
  | refused _ => rfl
  | done _ _ => rfl

theorem error_of_not_hasOwnOutcome
    (exceeded : ¬ node.HasOwnOutcome element path repeated maxDepth) :
    ∃ failure, node.compile element path repeated maxDepth = .error failure ∧
      failure.reason = .depthExceeded maxDepth := by
  have cut := compile_cutAt node element path repeated (Nat.le_refl maxDepth)
  unfold HasOwnOutcome at exceeded
  generalize node.compile element path repeated maxDepth = outcome at exceeded cut ⊢
  cases cut with
  | cut reason => exact ⟨_, rfl, reason⟩
  | refused own => exact absurd (fun failure same => Except.error.inj same ▸ own) exceeded
  | done _ _ => exact absurd nofun exceeded

/-- The height of a tree is enough. -/
theorem hasOwnOutcome_height (node : Node) (element : Element) (path : Path) (repeated : Bool) :
    node.HasOwnOutcome element path repeated node.height := by
  have cut := compile_cutAt node element path repeated (Nat.le_refl node.height)
  intro failure refused
  rw [refused] at cut
  cases cut with
  | cut _ deep => exact absurd deep (Nat.lt_irrefl _)
  | refused own => exact own

/-- A tree that was compiled is not higher than the limit. -/
theorem height_le_of_compile {compiled : Compiled}
    (success : node.compile element path repeated maxDepth = .ok compiled) :
    node.height ≤ maxDepth := by
  have cut := compile_cutAt node element path repeated (Nat.le_refl maxDepth)
  rw [success] at cut
  cases cut with
  | done fits => exact fits

end Threshold

/-- The limit is a threshold. For each tree, whatever it is compiled for and at whatever path, there
is a number, which is at most the height of the tree: every limit below it is reported as exceeded,
and every other one gives the same outcome, which is not that a limit was exceeded. If that outcome
is a compiled tree, the number is the height. -/
theorem exists_depth_threshold (node : Node) (element : Element) (path : Path) (repeated : Bool) :
    ∃ threshold ≤ node.height, ∃ outcome,
      (∀ maxDepth < threshold, ∃ failure,
        node.compile element path repeated maxDepth = .error failure ∧
          failure.reason = .depthExceeded maxDepth) ∧
      (∀ maxDepth, threshold ≤ maxDepth →
        node.compile element path repeated maxDepth = outcome) ∧
      (∀ failure, outcome = .error failure → ∀ limit, failure.reason ≠ .depthExceeded limit) ∧
      ∀ compiled, outcome = .ok compiled → threshold = node.height := by
  classical
  have enough := hasOwnOutcome_height node element path repeated
  have reached : ∃ maxDepth, node.HasOwnOutcome element path repeated maxDepth := ⟨_, enough⟩
  have least : Nat.find reached ≤ node.height := Nat.find_min' reached enough
  have own := Nat.find_spec reached
  refine ⟨Nat.find reached, least, node.compile element path repeated (Nat.find reached),
    fun maxDepth below => ?_, fun maxDepth above => ?_, own, fun compiled success => ?_⟩
  · exact error_of_not_hasOwnOutcome (Nat.find_min reached below)
  · exact compile_eq_of_hasOwnOutcome own above
  · exact Nat.le_antisymm least (height_le_of_compile success)

/-- A failure in front of the deepest node makes the threshold lower than the height. -/
example :
    let tree : Node := .sequence [.notEncodable "date", .sequence [.sequence []]]
    tree.height = 2 ∧ tree.compile .body .body false 1 =
      .error ⟨.notEncodable, "date", Path.body.child (.index 0)⟩ :=
  ⟨rfl, rfl⟩

end Node

end ConsumerContract
