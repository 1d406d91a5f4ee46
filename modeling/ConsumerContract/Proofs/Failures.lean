/-
This file proves that a failure tells the truth. Whenever the tree of a body is
refused, some node of it is in the way for the given reason, and the path of the
failure is the address of that node. A failure in a variant was found in a tree
of its own, with a path from the root of a body; what the array adds to it makes
it an address of the whole tree again, however deep variants lie in variants.

So only one thing makes a path collide: a generator inside another one with
nothing but wrappers between them.
-/

import ConsumerContract.Encoding.Declarations
import ConsumerContract.Proofs.Declares
import ConsumerContract.Proofs.Joined
import ConsumerContract.Proofs.WellFormed

namespace ConsumerContract

/-! ### Paths of variants -/

/-- A path that was reached from the root of a body is moved to the place of that root. -/
theorem Path.below_ofSteps {base : Path} (rooted : base.isEmpty = false) (steps : List Step) :
    (Path.body.ofSteps steps).below base = base.ofSteps steps := by
  have moved : (Path.body.ofSteps steps).text.toList = '$' :: Step.suffixes steps :=
    Path.toList_ofSteps rfl steps
  have placed := Path.toList_ofSteps rooted steps
  have sameText : base.text ++ String.ofList (Step.suffixes steps) = (base.ofSteps steps).text :=
    String.toList_injective (by rw [placed, String.toList_append, String.toList_ofList])
  rw [Path.below, moved]
  exact congrArg Path.mk sameText

/-! ### Failed checks -/

/-- The reason is that a pattern can not be used, or that a text does not match it. -/
def FailureReason.ConcernsPattern : FailureReason → Prop
  | patternMismatch _ | invalidPattern .. => True
  | _ => False

theorem readPattern_error {text : String} {path : Path} {failure : EncodingFailure}
    (refused : readPattern text path = .error failure) :
    failure.path = path ∧ failure.reason.ConcernsPattern := by
  unfold readPattern at refused
  split at refused
  · cases refused
  · rw [← Except.error.inj refused]
    exact ⟨rfl, trivial⟩

theorem checkExample_error {pattern : Pattern} {sample : Node} {path : Path}
    {failure : EncodingFailure} (refused : checkExample pattern sample path = .error failure) :
    failure.path = path ∧ failure.reason.ConcernsPattern := by
  unfold checkExample at refused
  split at refused
  · cases refused
  · rw [← Except.error.inj refused]
    exact ⟨rfl, trivial⟩

theorem checkPattern_error {text : String} {sample : Node} {path : Path}
    {failure : EncodingFailure}
    (refused : (match readPattern text path with
      | .ok pattern => checkExample pattern sample path
      | .error failure => .error failure) = .error failure) :
    failure.path = path ∧ failure.reason.ConcernsPattern := by
  split at refused
  · exact checkExample_error refused
  · rename_i read
    exact readPattern_error (read.trans (congrArg _ (Except.error.inj refused)))

theorem Rule.check_error {rule : Rule} {sample : Node} {path : Path} {failure : EncodingFailure}
    (refused : rule.check sample path = .error failure) :
    failure.path = path ∧ failure.reason.ConcernsPattern := by
  cases rule with
  | regex text => exact checkPattern_error refused
  | _ => cases refused

theorem Rule.checkAll_error {rules : List Rule} {sample : Node} {path : Path}
    {failure : EncodingFailure} (refused : Rule.checkAll sample path rules = .error failure) :
    failure.path = path ∧ failure.reason.ConcernsPattern := by
  induction rules with
  | nil => cases refused
  | cons rule rest inductionHypothesis =>
    rw [Rule.checkAll] at refused
    split at refused
    · exact inductionHypothesis refused
    · rename_i first
      exact Rule.check_error (first.trans (congrArg _ (Except.error.inj refused)))

theorem Generator.check_error {generator : Generator} {sample : Node} {path : Path}
    {failure : EncodingFailure} (refused : generator.check sample path = .error failure) :
    failure.path = path ∧ failure.reason.ConcernsPattern := by
  cases generator with
  | regex text => exact checkPattern_error refused
  | mockServerUrl url text =>
    rw [Generator.check] at refused
    split at refused
    · split at refused
      · exact checkExample_error refused
      · rw [← Except.error.inj refused]
        exact ⟨rfl, trivial⟩
    · rename_i read
      exact readPattern_error (read.trans (congrArg _ (Except.error.inj refused)))
  | _ => cases refused

namespace Node

theorem rejectMatcher_error {sample : Node} {path : Path} {failure : EncodingFailure}
    (refused : sample.rejectMatcher path = .error failure) :
    sample.isMatcher = true ∧ failure.path = path ∧ failure.reason = .nestedMatcher := by
  unfold rejectMatcher at refused
  split at refused
  · rename_i nested
    rw [← Except.error.inj refused]
    exact ⟨nested, rfl, rfl⟩
  · cases refused

/-! ### Offenders -/

/-- The node fits the patterns that it declares itself. -/
def FitsDeclarations : Node → Prop
  | matcher rules _ sample => ∀ rule ∈ rules, rule.Describes sample
  | generator declaration sample => declaration.Reproduces sample
  | composite rule declaration sample => rule.Describes sample ∧ declaration.Reproduces sample
  | _ => True

/-- The node, so many levels below the whole tree, is in the way of encoding for a reason. -/
def Offends (limit depth : Nat) (node : Node) : FailureReason → Prop
  | .notEncodable =>
    (∃ description, node = .invalid description none) ∨
      ∃ number, node = .scalar (.float number) ∧ number.isFinite = false
  | .patternMismatch _ | .invalidPattern .. => ¬ node.FitsDeclarations
  | .nestedMatcher =>
    node.isMatcher = true ∧ ∃ sample, node.sample? = some sample ∧ sample.isMatcher = true
  | .pathCollision => node.bearsGenerator = true ∧ ¬ node.GeneratesAlone
  | .depthExceeded bound => bound = limit ∧ limit < depth
  | .invalidParameter _ =>
    (∃ description problem, node = .invalid description (some problem)) ∨
      ∃ collection min max, node = .repetition collection min max ∧ collection.anyPart? = none

/-- A failure is explained by a tree if it is about one of its nodes and is given at the
address of that node. -/
def Explains (limit depth : Nat) (path : Path) (repeated : Bool) (node : Node)
    (failure : EncodingFailure) : Prop :=
  ∃ steps level part, Lies repeated node steps level part ∧
    failure.path = path.ofSteps steps ∧ part.Offends limit (depth + level) failure.reason

section Explanations

variable {limit depth : Nat} {path : Path} {repeated : Bool} {node : Node}
  {failure : EncodingFailure}

theorem Explains.here (place : failure.path = path)
    (offends : node.Offends limit depth failure.reason) :
    node.Explains limit depth path repeated failure :=
  ⟨[], 0, node, .outside (.itself repeated node), place, offends⟩

theorem Explains.deeper {front : List Step} {flag : Bool} {child : Node}
    (edge : Below .body repeated node front flag child)
    (inside : child.Explains limit (depth + 1) (path.ofSteps front) flag failure) :
    node.Explains limit depth path repeated failure := by
  obtain ⟨steps, level, part, lies, place, offends⟩ := inside
  refine ⟨front ++ steps, level + 1, part, lies.deeper edge, ?_, ?_⟩
  · rw [Path.ofSteps_append]
    exact place
  · rw [Nat.add_right_comm, Nat.add_assoc] at offends
    exact offends

theorem Explains.variant (rooted : path.isEmpty = false) {variants : List Node} {variant : Node}
    {position : Nat} (found : variants[position]? = some variant)
    (inside : variant.Explains limit (depth + 1) .body false failure) :
    (arrayContains variants).Explains limit depth path repeated
      { failure with path := failure.path.below (path.child (.index position)) } := by
  obtain ⟨steps, level, part, lies, place, offends⟩ := inside
  refine ⟨.index position :: steps, 1 + level, part, ?_, ?_, ?_⟩
  · have whole := Lies.variant (.itself repeated (arrayContains variants)) found lies
    rw [Nat.zero_add] at whole
    exact whole
  · rw [place, Path.below_ofSteps (Path.isEmpty_child rooted _)]
    rfl
  · rw [← Nat.add_assoc]
    exact offends

/-- A sample has a generator at its own path if one of the layers of its wrapper has one. -/
theorem mem_generators_declared (node : Node) (rooted : path.isEmpty = false) {sample : Node}
    (wrapped : node.sample? = some sample) :
    path.text ∈ Keyed.keys ((sample.entries .body false).declared path).generators ↔
      ¬ node.GeneratesAlone := by
  rw [not_generatesAlone, ← records_root_generator wrapped, Entries.declared, Keyed.mem_keys_ofList]
  constructor
  · rintro ⟨own, found⟩
    obtain ⟨⟨steps, declaration⟩, recorded, same⟩ := List.mem_map.mp found
    have samePath : path.ofSteps steps = path.ofSteps [] :=
      congrArg Path.mk (Prod.ext_iff.mp same).1
    obtain rfl := Path.ofSteps_injective rooted samePath
    exact ⟨declaration, recorded⟩
  · rintro ⟨own, recorded⟩
    exact ⟨own, List.mem_map_of_mem recorded⟩

/-- The generators around a compiled sample are those of its entries, with or without rules. -/
theorem generators_ruled {sample : Node} {inner : Compiled} {rule : Rule}
    (success : compileAt limit .body path repeated depth sample = .ok inner) :
    (if Element.body = .path then inner else inner.withRules path ⟨[rule], none⟩).generators =
      ((sample.entries .body repeated).declared path).generators := by
  rw [if_neg (by decide), compilesToForm sample success]
  rfl

/-- A matcher directly around a matcher is refused at its own place. -/
theorem Explains.of_nested (ruled : node.isMatcher = true) {sample : Node}
    (wrapped : node.sample? = some sample)
    (nested : sample.rejectMatcher path = .error failure) :
    node.Explains limit depth path repeated failure := by
  obtain ⟨isMatcher, place, reason⟩ := rejectMatcher_error nested
  refine .here place ?_
  rw [reason]
  exact ⟨ruled, sample, wrapped, isMatcher⟩

/-- A node that misses one of its patterns is refused at its own place. -/
theorem Explains.of_pattern (refused : failure.path = path ∧ failure.reason.ConcernsPattern)
    (misfit : ¬ node.FitsDeclarations) : node.Explains limit depth path repeated failure := by
  refine .here refused.1 ?_
  have concerns := refused.2
  cases same : failure.reason with
  | patternMismatch pattern => exact misfit
  | invalidPattern pattern problem => exact misfit
  | _ =>
    rw [same] at concerns
    exact concerns.elim

/-- Where a wrapper's generator can not be recorded, one of its layers has a generator too. -/
theorem Explains.of_collision (rooted : path.isEmpty = false) (bears : node.bearsGenerator = true)
    {sample : Node} (wrapped : node.sample? = some sample) {ruled : Compiled} {own : Generator}
    (inner : ruled.generators = ((sample.entries .body false).declared path).generators)
    (refused : ruled.withGenerator path own sample = .error failure) :
    node.Explains limit depth path repeated failure := by
  rw [Compiled.withGenerator_eq, inner] at refused
  split at refused
  · rename_i member
    rw [← Except.error.inj refused]
    exact .here rfl ⟨bears, (mem_generators_declared node rooted wrapped).mp member⟩
  · cases refused

end Explanations

/-! ### Refused trees -/

/-- Whatever makes the compiler refuse the node in a body is explained by the node. -/
def ExplainsFailures (node : Node) : Prop :=
  ∀ {limit depth : Nat} {path : Path} {repeated : Bool} {failure : EncodingFailure},
    path.isEmpty = false → compileAt limit .body path repeated depth node = .error failure →
      node.Explains limit depth path repeated failure

theorem explainsFailures_of_within {node : Node}
    (shallow : ∀ {limit depth : Nat} {path : Path} {repeated : Bool} {failure : EncodingFailure},
      path.isEmpty = false → depth ≤ limit →
        compileAt limit .body path repeated depth node = .error failure →
          node.Explains limit depth path repeated failure) : node.ExplainsFailures := by
  intro limit depth path repeated failure rooted refused
  by_cases within : depth ≤ limit
  · exact shallow rooted within refused
  · rw [compileAt_of_lt (Nat.not_le.mp within)] at refused
    rw [← Except.error.inj refused]
    exact .here rfl ⟨rfl, Nat.not_le.mp within⟩

theorem scalar_explainsFailures (value : Scalar) : (Node.scalar value).ExplainsFailures := by
  refine explainsFailures_of_within fun rooted within refused => ?_
  rw [compileAt_scalar within, bind_eq_error] at refused
  rcases refused with unread | ⟨json, read, none⟩
  · cases value with
    | float number =>
      rw [Scalar.toJson] at unread
      split at unread
      · cases unread
      · rename_i infinite
        rw [← Except.error.inj unread]
        exact .here rfl (Or.inr ⟨number, rfl, Binary.numeral?_eq_none.mp infinite⟩)
    | _ => cases unread
  · cases none

theorem sequence_explainsFailures {items : List Node}
    (each : ∀ item ∈ items, item.ExplainsFailures) : (Node.sequence items).ExplainsFailures := by
  refine explainsFailures_of_within fun {_ _ _ repeated _} rooted within refused => ?_
  rw [compileAt_sequence within, bind_eq_error] at refused
  rcases refused with refused | ⟨result, _, none⟩
  · obtain ⟨offset, item, found, refused⟩ := compileItems_error .empty
      (fun _ => ⟨rooted, fun later _ => Entries.empty_avoids _⟩) refused
    have member := List.mem_of_getElem? found
    rw [Nat.zero_add] at refused
    cases shared : repeated || Element.body.sharesItems with
    | true =>
      rw [shared] at refused
      exact .deeper (.sharedItem shared member) (each item member rooted refused)
    | false =>
      rw [shared] at refused
      exact .deeper (.item shared found)
        (each item member (Path.isEmpty_child rooted (.index offset)) refused)
  · cases none

theorem mapping_explainsFailures {members : List (String × Node)}
    (distinct : (Keyed.keys members).Nodup)
    (each : ∀ key member, (key, member) ∈ members → member.ExplainsFailures) :
    (Node.mapping members).ExplainsFailures := by
  refine explainsFailures_of_within fun rooted within refused => ?_
  rw [compileAt_mapping within, bind_eq_error] at refused
  rcases refused with refused | ⟨result, _, none⟩
  · obtain ⟨key, member, found, refused⟩ := compileMembers_error .empty rooted distinct
      (fun key _ => Entries.empty_avoids _) refused
    exact .deeper (.member found)
      (each key member found (Path.isEmpty_child rooted (.key key)) refused)
  · cases none

theorem arrayContains_explainsFailures {variants : List Node}
    (each : ∀ variant ∈ variants, variant.ExplainsFailures) :
    (Node.arrayContains variants).ExplainsFailures := by
  refine explainsFailures_of_within fun rooted within refused => ?_
  rw [compileAt_arrayContains within, bind_eq_error] at refused
  rcases refused with refused | ⟨result, _, none⟩
  · obtain ⟨offset, variant, inner, found, refused, same⟩ := compileVariants_error refused
    rw [same, Nat.zero_add]
    exact .variant rooted found (each variant (List.mem_of_getElem? found) rfl refused)
  · cases none

theorem repetition_explainsFailures {collection : Node} {min max : Option UInt64}
    (inductionHypothesis : collection.ExplainsFailures) :
    (Node.repetition collection min max).ExplainsFailures := by
  refine explainsFailures_of_within fun rooted within refused => ?_
  cases shape : collection.anyPart? with
  | none =>
    rw [compileAt_repetition_none within shape] at refused
    rw [← Except.error.inj refused]
    exact .here rfl (Or.inr ⟨collection, min, max, rfl, shape⟩)
  | some step =>
    rw [compileAt_repetition within shape, bind_eq_error] at refused
    rcases refused with refused | ⟨inner, _, none⟩
    · exact .deeper (.collection shape) (inductionHypothesis (Path.isEmpty_child rooted _) refused)
    · cases none

theorem matcher_explainsFailures {rules : List Rule} {combine : Option Combination} {sample : Node}
    (inductionHypothesis : sample.ExplainsFailures) :
    (Node.matcher rules combine sample).ExplainsFailures := by
  refine explainsFailures_of_within fun rooted within refused => ?_
  rw [compileAt_matcher within] at refused
  simp only [bind_eq_error] at refused
  rcases refused with nested | ⟨_, _, misfit | ⟨_, _, refused | ⟨_, _, none⟩⟩⟩
  · exact .of_nested rfl rfl nested
  · refine .of_pattern (Rule.checkAll_error misfit) fun fits => ?_
    rw [Rule.checkAll_eq_ok.mpr fits] at misfit
    cases misfit
  · exact .deeper (.sample rfl) (inductionHypothesis rooted refused)
  · cases none

theorem generator_explainsFailures {declaration : Generator} {sample : Node}
    (inductionHypothesis : sample.ExplainsFailures) :
    (Node.generator declaration sample).ExplainsFailures := by
  refine explainsFailures_of_within fun rooted within refused => ?_
  rw [compileAt_generator within] at refused
  simp only [bind_eq_error] at refused
  rcases refused with misfit | ⟨_, _, refused | ⟨inner, success, refused⟩⟩
  · refine .of_pattern (Generator.check_error misfit) fun fits => ?_
    rw [Generator.check_eq_ok.mpr fits] at misfit
    cases misfit
  · exact .deeper (.sample rfl) (inductionHypothesis rooted refused)
  · refine .of_collision rooted rfl rfl ?_ refused
    rw [compilesToForm sample success, compiledForm]

theorem composite_explainsFailures {rule : Rule} {declaration : Generator} {sample : Node}
    (inductionHypothesis : sample.ExplainsFailures) :
    (Node.composite rule declaration sample).ExplainsFailures := by
  refine explainsFailures_of_within fun rooted within refused => ?_
  rw [compileAt_composite within] at refused
  simp only [bind_eq_error] at refused
  rcases refused with nested | ⟨_, _, misfit | ⟨_, _, misfit | ⟨_, _, refused |
    ⟨inner, success, refused⟩⟩⟩⟩
  · exact .of_nested rfl rfl nested
  · refine .of_pattern (Rule.check_error misfit) fun fits => ?_
    rw [Rule.check_eq_ok.mpr fits.1] at misfit
    cases misfit
  · refine .of_pattern (Generator.check_error misfit) fun fits => ?_
    rw [Generator.check_eq_ok.mpr fits.2] at misfit
    cases misfit
  · exact .deeper (.sample rfl) (inductionHypothesis rooted refused)
  · exact .of_collision rooted rfl rfl (generators_ruled success) refused

/-- Whatever makes the compiler refuse the tree of a body is explained by that tree. -/
theorem explainsFailures (tree : Ordered) : tree.node.ExplainsFailures := by
  obtain ⟨node, ordered⟩ := tree
  dsimp only
  induction node with
  | scalar value => exact scalar_explainsFailures value
  | sequence items each =>
    exact sequence_explainsFailures fun item member =>
      each item member (keysOrdered_sequence.mp ordered item member)
  | mapping members each =>
    exact mapping_explainsFailures ordered.keys fun key member found =>
      each key member found ((keysOrdered_mapping.mp ordered).2 (key, member) found)
  | matcher rules combine sample inductionHypothesis =>
    exact matcher_explainsFailures (inductionHypothesis (keysOrdered_matcher.mp ordered))
  | repetition collection min max inductionHypothesis =>
    exact repetition_explainsFailures (inductionHypothesis (keysOrdered_repetition.mp ordered))
  | arrayContains variants each =>
    exact arrayContains_explainsFailures fun variant member =>
      each variant member (keysOrdered_arrayContains.mp ordered variant member)
  | generator declaration sample inductionHypothesis =>
    exact generator_explainsFailures (inductionHypothesis (keysOrdered_generator.mp ordered))
  | composite rule declaration sample inductionHypothesis =>
    exact composite_explainsFailures (inductionHypothesis (keysOrdered_composite.mp ordered))
  | invalid description problem =>
    refine explainsFailures_of_within fun rooted within refused => ?_
    rw [compileAt_invalid within] at refused
    rw [← Except.error.inj refused]
    cases problem with
    | none => exact .here rfl (Or.inl ⟨description, rfl⟩)
    | some problem => exact .here rfl (Or.inl ⟨description, problem, rfl⟩)

/-- A body that can not be encoded has a node in the way for the reason of the failure, and the
path of the failure is the address of this node. -/
theorem encode_body_error_explained (tree : Ordered) (maxDepth : Nat) (failure : EncodingFailure)
    (refused : tree.node.encode .body maxDepth = .error failure) :
    ∃ steps level part, Lies false tree.node steps level part ∧
      failure.path = Path.body.ofSteps steps ∧ part.Offends maxDepth level failure.reason := by
  unfold encode at refused
  rw [bind_eq_error] at refused
  rcases refused with refused | ⟨_, _, none⟩
  · obtain ⟨steps, level, part, lies, place, offends⟩ := explainsFailures tree rfl refused
    rw [Nat.zero_add] at offends
    exact ⟨steps, level, part, lies, place, offends⟩
  · cases none

/-- A matcher around a matcher in a variant inside a variant is refused at its address in the
whole tree. -/
theorem encode_body_error_explained_of_links :
    let nested := Node.matcher [.sameType] none (.matcher [.integer] none (.integer 1))
    let inner := Node.arrayContains [.mapping [("a b", nested)]]
    let tree : Ordered :=
      ⟨.mapping [("links", .arrayContains [.null, .mapping [("to", inner)]])], by decide⟩
    ∃ failure, tree.node.encode .body 9 = .error failure ∧
      failure.reason = .nestedMatcher ∧ failure.path.text = "$.links[1].to[0]['a b']" ∧
        ∃ steps level part, Lies false tree.node steps level part ∧
          failure.path = Path.body.ofSteps steps ∧ part.Offends 9 level failure.reason := by
  intro nested inner tree
  exact ⟨_, rfl, rfl, by decide +kernel, encode_body_error_explained tree 9 _ rfl⟩

/-! ### Collisions -/

/-- Only a generator inside another one, with nothing but wrappers between them, makes a path
collide. Parts of a value behind different steps never have a path in common, whatever the keys
are and wherever the value lies, so the members of a mapping and the elements of a sequence can
always be merged. -/
theorem pathCollision_in_layers (tree : Ordered) :
    (∀ maxDepth failure, tree.node.compile .body .body false maxDepth = .error failure →
      failure.reason = .pathCollision →
        ∃ outer inner, tree.node.Contains outer ∧ outer.bearsGenerator = true ∧
          inner ∈ outer.layers ∧ inner.bearsGenerator = true) ∧
    (∀ steps limit depth members declared values key member compiled,
      compileMembers limit .body (.ofSteps .body steps) depth .empty members =
          .ok (declared, values) →
        key ∉ Keyed.keys members →
          compileAt limit .body (.ofSteps .body (steps ++ [.key key])) false (depth + 1) member =
              .ok compiled →
            declared.CanMerge compiled.toDeclared) ∧
    (∀ steps limit depth items declared values item compiled,
      compileItems limit .body (.ofSteps .body steps) false depth 0 .empty items =
          .ok (declared, values) →
        compileAt limit .body (.ofSteps .body (steps ++ [.index items.length])) false (depth + 1)
            item = .ok compiled →
          declared.CanMerge compiled.toDeclared) ∧
    ∀ steps step step' limit limit' depth depth' repeated repeated' first second compiled compiled',
      compileAt limit .body (.ofSteps .body (steps ++ [step])) repeated depth first =
          .ok compiled →
        compileAt limit' .body (.ofSteps .body (steps ++ [step'])) repeated' depth' second =
            .ok compiled' →
          step ≠ step' → compiled.toDeclared.Apart compiled'.toDeclared := by
  have rooted (steps : List Step) : (Path.ofSteps .body steps).isEmpty = false :=
    Path.isEmpty_ofSteps rfl steps
  refine ⟨?_, ?_, ?_, ?_⟩
  · intro maxDepth failure refused reason
    obtain ⟨steps, level, part, lies, -, offends⟩ := explainsFailures tree rfl refused
    rw [reason] at offends
    obtain ⟨bears, crowded⟩ := offends
    obtain ⟨inner, member, bears'⟩ := not_generatesAlone.mp crowded
    exact ⟨part, inner, lies.contains, bears, member, bears'⟩
  · intro steps limit depth members declared values key member compiled before fresh own
    rw [Path.ofSteps_append] at own
    exact canMerge_member (rooted steps) fresh before own
  · intro steps limit depth items declared values item compiled before own
    rw [Path.ofSteps_append] at own
    exact canMerge_item (rooted steps) before own
  · intro steps step step' limit limit' depth depth' repeated repeated' first second compiled
      compiled' own own' different
    rw [Path.ofSteps_append] at own own'
    exact apart_of_compileAt (rooted steps) different own own'

/-- A generator in the layers of another one makes the path of a key with quotes collide, while
a member under this key can be merged with one under a similar key. -/
theorem pathCollision_in_layers_of_uuid :
    let inner := Node.generator (.uuid none) (.string "x")
    let outer := Node.generator (.uuid none) (.matcher [.sameType] none inner)
    let tree : Ordered := ⟨.mapping [("a']", outer)], by decide⟩
    (∃ failure, tree.node.compile .body .body false 9 = .error failure ∧
        failure.reason = .pathCollision ∧
          ∃ outer inner, tree.node.Contains outer ∧ outer.bearsGenerator = true ∧
            inner ∈ outer.layers ∧ inner.bearsGenerator = true) ∧
      ∃ declared values compiled,
        compileMembers 9 .body (.ofSteps .body [.anyItem]) 0 .empty [("a']", inner)] =
            .ok (declared, values) ∧
          compileAt 9 .body (.ofSteps .body [.anyItem, .key "a"]) false 1 inner = .ok compiled ∧
            declared.CanMerge compiled.toDeclared := by
  intro inner outer tree
  obtain ⟨collision, merge, -, -⟩ := pathCollision_in_layers tree
  exact ⟨⟨_, rfl, rfl, collision 9 _ rfl rfl⟩,
    _, _, _, rfl, rfl, merge [.anyItem] 9 0 [("a']", inner)] _ _ "a" inner _ rfl (by decide) rfl⟩

end Node

end ConsumerContract
