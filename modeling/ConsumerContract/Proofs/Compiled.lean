/-
This file proves what a successful compilation gives. The compiler joins fresh
maps of the parts of a collection and inserts the declarations of wrappers into
them; the outcome is the same as that of one walk over the tree which records
each declaration in one map, and the value is the tree without its wrappers.
This holds for every element, at every path and for every depth limit.

The equations in the first part say what one call of the compiler does, without
the check of the depth. Later proofs use them and do not open the compiler.
-/

import ConsumerContract.Proofs.Entries

namespace ConsumerContract

/-! ### Outcomes of two steps -/

theorem bind_eq_ok {ε α β : Type} {first : Except ε α} {next : α → Except ε β} {result : β} :
    first >>= next = .ok result ↔ ∃ value, first = .ok value ∧ next value = .ok result := by
  cases first with
  | error failure => simp [bind, Except.bind]
  | ok value => simp [bind, Except.bind]

theorem bind_eq_error {ε α β : Type} {first : Except ε α} {next : α → Except ε β} {failure : ε} :
    first >>= next = .error failure ↔
      first = .error failure ∨ ∃ value, first = .ok value ∧ next value = .error failure := by
  cases first with
  | error failure => simp [bind, Except.bind]
  | ok value => simp [bind, Except.bind]

/-! ### Leaves -/

theorem Scalar.stripped_of_toJson {value : Scalar} {path : Path} {json : Json}
    (read : value.toJson path = .ok json) : json = value.stripped := by
  cases value with
  | float number =>
    cases found : number.numeral? with
    | some numeral =>
      rw [Scalar.toJson, found] at read
      rw [Scalar.stripped, found]
      exact (Except.ok.inj read).symm
    | none =>
      rw [Scalar.toJson, found] at read
      cases read
  | null => exact (Except.ok.inj read).symm
  | bool value => exact (Except.ok.inj read).symm
  | integer value => exact (Except.ok.inj read).symm
  | decimal value => exact (Except.ok.inj read).symm
  | string value => exact (Except.ok.inj read).symm

namespace Node

/-! ### One call of the compiler -/

section Equations

variable {limit depth : Nat} {element : Element} {path : Path} {repeated : Bool}

theorem compileAt_of_lt (deep : limit < depth) (node : Node) :
    compileAt limit element path repeated depth node =
      .error ⟨.depthExceeded limit, node.describe, path⟩ := by
  cases node with
  | invalid description problem =>
    cases problem with
    | none => exact if_pos deep
    | some text => exact if_pos deep
  | _ => exact if_pos deep

theorem depth_le_of_compileAt {node : Node} {compiled : Compiled}
    (success : compileAt limit element path repeated depth node = .ok compiled) :
    depth ≤ limit := by
  refine Nat.not_lt.mp fun deep => ?_
  rw [compileAt_of_lt deep] at success
  cases success

theorem compileAt_scalar (within : depth ≤ limit) (value : Scalar) :
    compileAt limit element path repeated depth (.scalar value) =
      value.toJson path >>= fun json => .ok (.plain json) := by
  exact if_neg (Nat.not_lt.mpr within)

theorem compileAt_sequence (within : depth ≤ limit) (items : List Node) :
    compileAt limit element path repeated depth (.sequence items) =
      compileItems limit element path (repeated || element.sharesItems) depth 0 .empty items >>=
        fun result => .ok ⟨result.1, .array result.2⟩ := by
  exact if_neg (Nat.not_lt.mpr within)

theorem compileAt_mapping (within : depth ≤ limit) (members : List (String × Node)) :
    compileAt limit element path repeated depth (.mapping members) =
      compileMembers limit element path depth .empty members >>=
        fun result => .ok ⟨result.1, .object result.2⟩ := by
  exact if_neg (Nat.not_lt.mpr within)

theorem compileAt_matcher (within : depth ≤ limit) (rules : List Rule)
    (combine : Option Combination) (sample : Node) :
    compileAt limit element path repeated depth (.matcher rules combine sample) =
      sample.rejectMatcher path >>= fun _ => Rule.checkAll sample path rules >>= fun _ =>
        compileAt limit element path false (depth + 1) sample >>= fun inner =>
          .ok (inner.withRules path ⟨rules, combine⟩) := by
  exact if_neg (Nat.not_lt.mpr within)

theorem compileAt_repetition (within : depth ≤ limit) {collection : Node} {step : Step}
    (shape : collection.anyPart? = some step) (min max : Option UInt64) :
    compileAt limit element path repeated depth (.repetition collection min max) =
      compileAt limit element (path.child step) true (depth + 1) collection >>= fun inner =>
        .ok ((if step = .anyMember then inner.asOnlyItem else inner).withRules path
          (repetitionRules min max)) := by
  refine (if_neg (Nat.not_lt.mpr within)).trans ?_
  rw [shape]
  rfl

theorem compileAt_repetition_none (within : depth ≤ limit) {collection : Node}
    (shape : collection.anyPart? = none) (min max : Option UInt64) :
    compileAt limit element path repeated depth (.repetition collection min max) =
      .error ⟨.invalidParameter "a repetition must wrap a sequence or a mapping",
        collection.describe, path⟩ := by
  refine (if_neg (Nat.not_lt.mpr within)).trans ?_
  rw [shape]

theorem compileAt_arrayContains (within : depth ≤ limit) (variants : List Node) :
    compileAt limit element path repeated depth (.arrayContains variants) =
      compileVariants limit path depth 0 variants >>= fun result =>
        .ok ((Compiled.plain (.array result.2)).withRules path
          ⟨[.arrayContains result.1], none⟩) := by
  exact if_neg (Nat.not_lt.mpr within)

theorem compileAt_generator (within : depth ≤ limit) (declaration : Generator) (sample : Node) :
    compileAt limit element path repeated depth (.generator declaration sample) =
      declaration.check sample path >>= fun _ =>
        compileAt limit element path false (depth + 1) sample >>= fun inner =>
          inner.withGenerator path declaration sample := by
  exact if_neg (Nat.not_lt.mpr within)

theorem compileAt_composite (within : depth ≤ limit) (rule : Rule) (declaration : Generator)
    (sample : Node) :
    compileAt limit element path repeated depth (.composite rule declaration sample) =
      sample.rejectMatcher path >>= fun _ => rule.check sample path >>= fun _ =>
        declaration.check sample path >>= fun _ =>
          compileAt limit element path false (depth + 1) sample >>= fun inner =>
            (if element = .path then inner
              else inner.withRules path ⟨[rule], none⟩).withGenerator path declaration sample := by
  exact if_neg (Nat.not_lt.mpr within)

theorem compileAt_invalid (within : depth ≤ limit) (description : String)
    (problem : Option String) :
    compileAt limit element path repeated depth (.invalid description problem) =
      .error ⟨match problem with | none => .notEncodable | some text => .invalidParameter text,
        description, path⟩ := by
  cases problem with
  | none => exact if_neg (Nat.not_lt.mpr within)
  | some text => exact if_neg (Nat.not_lt.mpr within)

theorem compileItems_cons (shared : Bool) (position : Nat) (declared : Declared) (item : Node)
    (rest : List Node) :
    compileItems limit element path shared depth position declared (item :: rest) =
      compileAt limit element (path.item shared position) false (depth + 1) item >>= fun compiled =>
        declared.join shared item compiled.toDeclared >>= fun joined =>
          compileItems limit element path shared depth (position + 1) joined rest >>= fun result =>
            .ok (result.1, compiled.value :: result.2) :=
  rfl

theorem compileMembers_cons (declared : Declared) (key : String) (member : Node)
    (rest : List (String × Node)) :
    compileMembers limit element path depth declared ((key, member) :: rest) =
      compileAt limit element (path.child (.key key)) false (depth + 1) member >>= fun compiled =>
        declared.join false member compiled.toDeclared >>= fun joined =>
          compileMembers limit element path depth joined rest >>= fun result =>
            .ok (result.1, (key, compiled.value) :: result.2) :=
  rfl

theorem compileVariants_cons_ok {position : Nat} {variant : Node} {compiled : Compiled}
    (success : compileAt limit .body .body false (depth + 1) variant = .ok compiled)
    (rest : List Node) :
    compileVariants limit path depth position (variant :: rest) =
      compileVariants limit path depth (position + 1) rest >>= fun result =>
        .ok (⟨position, compiled.rules, compiled.generators⟩ :: result.1,
          compiled.value :: result.2) := by
  rw [compileVariants, success]
  rfl

theorem compileVariants_cons_error {position : Nat} {variant : Node} {failure : EncodingFailure}
    (refused : compileAt limit .body .body false (depth + 1) variant = .error failure)
    (rest : List Node) :
    compileVariants limit path depth position (variant :: rest) =
      .error { failure with path := failure.path.below (path.child (.index position)) } := by
  rw [compileVariants, refused]

end Equations

/-! ### Forms of wrappers -/

section Forms

variable (element : Element) (path : Path) (repeated : Bool)

theorem compiledForm_matcher (rules : List Rule) (combine : Option Combination) (sample : Node) :
    (Node.matcher rules combine sample).compiledForm element path repeated =
      (sample.compiledForm element path false).withRules path ⟨rules, combine⟩ := by
  unfold compiledForm
  rw [entries, stripped, Entries.declared_withRules]
  rfl

theorem entries_repetition {collection : Node} {step : Step}
    (shape : collection.anyPart? = some step) (min max : Option UInt64) :
    (Node.repetition collection min max).entries element repeated =
      ((collection.entries element true).below step).withRules (repetitionRules min max) := by
  rw [entries, shape]

theorem stripped_repetition {collection : Node} {step : Step}
    (shape : collection.anyPart? = some step) (min max : Option UInt64) :
    (Node.repetition collection min max).stripped =
      if step = .anyMember then .array [collection.stripped] else collection.stripped := by
  cases collection with
  | sequence items =>
    rw [← Option.some.inj shape, if_neg (by decide)]
    rfl
  | mapping members =>
    rw [← Option.some.inj shape, if_pos rfl]
    rfl
  | _ => cases shape

theorem compiledForm_repetition {collection : Node} {step : Step}
    (shape : collection.anyPart? = some step) (min max : Option UInt64) :
    (Node.repetition collection min max).compiledForm element path repeated =
      (if step = .anyMember then (collection.compiledForm element (path.child step) true).asOnlyItem
        else collection.compiledForm element (path.child step) true).withRules path
          (repetitionRules min max) := by
  unfold compiledForm
  rw [entries_repetition _ _ shape, stripped_repetition shape, Entries.declared_withRules,
    Entries.declared_below]
  split
  · rfl
  · rfl

theorem compiledForm_arrayContains (variants : List Node) :
    (Node.arrayContains variants).compiledForm element path repeated =
      (Compiled.plain (.array (strippedItems variants))).withRules path
        ⟨[.arrayContains (declaredVariants 0 variants)], none⟩ := by
  unfold compiledForm
  rw [entries, stripped, Entries.declared_withRules]
  rfl

end Forms

/-! ### Success -/

/-- Whatever a successful compilation of this node gives is its compiled form. -/
def CompilesToForm (node : Node) : Prop :=
  ∀ {limit depth : Nat} {element : Element} {path : Path} {repeated : Bool} {compiled : Compiled},
    compileAt limit element path repeated depth node = .ok compiled →
      compiled = node.compiledForm element path repeated

theorem scalar_compilesToForm (value : Scalar) : (Node.scalar value).CompilesToForm := by
  intro limit depth element path repeated compiled success
  rw [compileAt_scalar (depth_le_of_compileAt success), bind_eq_ok] at success
  obtain ⟨json, read, same⟩ := success
  rw [← Except.ok.inj same, Scalar.stripped_of_toJson read]
  rfl

theorem compileItems_eq (entries : Entries) {items : List Node}
    (each : ∀ item ∈ items, item.CompilesToForm) {limit depth position : Nat} {element : Element}
    {path : Path} {shared : Bool} {result : Declared × List Json}
    (success : compileItems limit element path shared depth position (entries.declared path) items =
      .ok result) :
    result = ((entries.append (entriesOfItems element shared position items)).declared path,
      strippedItems items) := by
  induction items generalizing position entries result with
  | nil =>
    have same : (entries.declared path, []) = result := Except.ok.inj success
    rw [← same, entriesOfItems, Entries.append_empty, strippedItems]
  | cons item rest inductionHypothesis =>
    rw [compileItems_cons] at success
    simp only [bind_eq_ok] at success
    obtain ⟨compiled, first, joined, join, others, success, same⟩ := success
    rw [each item List.mem_cons_self first] at join same
    have placed : (item.compiledForm element (path.item shared position) false).toDeclared =
        (if shared then item.entries element false
          else (item.entries element false).below (.index position)).declared path := by
      cases shared with
      | true => rfl
      | false =>
        rw [if_neg Bool.false_ne_true, Entries.declared_below]
        rfl
    rw [placed] at join
    rw [Entries.declared_append_of_join join] at success
    rw [inductionHypothesis _ (fun other member => each other (List.mem_cons_of_mem _ member))
      success] at same
    rw [← Except.ok.inj same, entriesOfItems, strippedItems, Entries.append_assoc]
    rfl

theorem compileMembers_eq (entries : Entries) {members : List (String × Node)}
    (each : ∀ key member, (key, member) ∈ members → member.CompilesToForm)
    {limit depth : Nat} {element : Element} {path : Path} {result : Declared × List (String × Json)}
    (success : compileMembers limit element path depth (entries.declared path) members =
      .ok result) :
    result = ((entries.append (entriesOfMembers element members)).declared path,
      strippedMembers members) := by
  induction members generalizing entries result with
  | nil =>
    have same : (entries.declared path, []) = result := Except.ok.inj success
    rw [← same, entriesOfMembers, Entries.append_empty, strippedMembers]
  | cons entry rest inductionHypothesis =>
    obtain ⟨key, member⟩ := entry
    rw [compileMembers_cons] at success
    simp only [bind_eq_ok] at success
    obtain ⟨compiled, first, joined, join, others, success, same⟩ := success
    rw [each key member List.mem_cons_self first] at join same
    rw [compiledForm, ← Entries.declared_below] at join
    rw [Entries.declared_append_of_join join] at success
    rw [inductionHypothesis _ (fun key other member => each key other
      (List.mem_cons_of_mem _ member)) success] at same
    rw [← Except.ok.inj same, entriesOfMembers, strippedMembers, Entries.append_assoc]
    rfl

theorem compileVariants_eq {variants : List Node}
    (each : ∀ variant ∈ variants, variant.CompilesToForm) {limit depth position : Nat} {path : Path}
    {result : List Variant × List Json}
    (success : compileVariants limit path depth position variants = .ok result) :
    result = (declaredVariants position variants, strippedItems variants) := by
  induction variants generalizing position result with
  | nil =>
    have same : ([], []) = result := Except.ok.inj success
    rw [← same, declaredVariants, strippedItems]
  | cons variant rest inductionHypothesis =>
    cases first : compileAt limit .body .body false (depth + 1) variant with
    | error failure =>
      rw [compileVariants_cons_error first] at success
      cases success
    | ok compiled =>
      rw [compileVariants_cons_ok first, bind_eq_ok] at success
      obtain ⟨others, success, same⟩ := success
      rw [inductionHypothesis (fun other member => each other (List.mem_cons_of_mem _ member))
        success, each variant List.mem_cons_self first] at same
      rw [← Except.ok.inj same, declaredVariants, strippedItems]
      rfl

/-- A tree compiles to its form only: to the value without its wrappers, and to the maps of
its entries. -/
theorem compilesToForm (node : Node) : node.CompilesToForm := by
  induction node with
  | scalar value => exact scalar_compilesToForm value
  | sequence items each =>
    intro limit depth element path repeated compiled success
    rw [compileAt_sequence (depth_le_of_compileAt success), bind_eq_ok] at success
    obtain ⟨result, success, same⟩ := success
    rw [compileItems_eq .empty each success] at same
    rw [← Except.ok.inj same, Entries.empty_append, compiledForm, entries, stripped]
  | mapping members each =>
    intro limit depth element path repeated compiled success
    rw [compileAt_mapping (depth_le_of_compileAt success), bind_eq_ok] at success
    obtain ⟨result, success, same⟩ := success
    rw [compileMembers_eq .empty each success] at same
    rw [← Except.ok.inj same, Entries.empty_append, compiledForm, entries, stripped]
  | matcher rules combine sample inductionHypothesis =>
    intro limit depth element path repeated compiled success
    rw [compileAt_matcher (depth_le_of_compileAt success)] at success
    simp only [bind_eq_ok] at success
    obtain ⟨_, _, _, _, inner, success, same⟩ := success
    rw [← Except.ok.inj same, inductionHypothesis success, compiledForm_matcher]
  | repetition collection min max inductionHypothesis =>
    intro limit depth element path repeated compiled success
    have within := depth_le_of_compileAt success
    cases shape : collection.anyPart? with
    | none =>
      rw [compileAt_repetition_none within shape] at success
      cases success
    | some step =>
      rw [compileAt_repetition within shape, bind_eq_ok] at success
      obtain ⟨inner, success, same⟩ := success
      rw [← Except.ok.inj same, inductionHypothesis success, compiledForm_repetition _ _ _ shape]
  | arrayContains variants each =>
    intro limit depth element path repeated compiled success
    rw [compileAt_arrayContains (depth_le_of_compileAt success), bind_eq_ok] at success
    obtain ⟨result, success, same⟩ := success
    rw [← Except.ok.inj same, compileVariants_eq each success, compiledForm_arrayContains]
  | generator declaration sample inductionHypothesis =>
    intro limit depth element path repeated compiled success
    rw [compileAt_generator (depth_le_of_compileAt success)] at success
    simp only [bind_eq_ok] at success
    obtain ⟨_, _, inner, success, same⟩ := success
    rw [inductionHypothesis success] at same
    rw [Entries.compiled_withGenerator same, compiledForm, entries, stripped]
  | composite rule declaration sample inductionHypothesis =>
    intro limit depth element path repeated compiled success
    rw [compileAt_composite (depth_le_of_compileAt success)] at success
    simp only [bind_eq_ok] at success
    obtain ⟨_, _, _, _, _, _, inner, success, same⟩ := success
    rw [inductionHypothesis success] at same
    have ruled : (if element = .path then sample.compiledForm element path false
        else (sample.compiledForm element path false).withRules path ⟨[rule], none⟩) =
          ⟨(if element = .path then sample.entries element false
            else (sample.entries element false).withRules ⟨[rule], none⟩).declared path,
            sample.stripped⟩ := by
      split
      · rfl
      · rw [Entries.declared_withRules]
        rfl
    rw [ruled] at same
    rw [Entries.compiled_withGenerator same, compiledForm, entries, stripped]
  | invalid description problem =>
    intro limit depth element path repeated compiled success
    rw [compileAt_invalid (depth_le_of_compileAt success)] at success
    cases success

/-- The compiled value is the tree without its wrappers, whatever the tree is compiled for. So
one tree has one value, for every element, at every path and within every limit. -/
theorem compile_value_eq_stripped (node : Node) :
    (∀ element path repeated maxDepth compiled,
      node.compile element path repeated maxDepth = .ok compiled →
        compiled.value = node.stripped) ∧
      ∀ element path repeated maxDepth compiled element' path' repeated' maxDepth' compiled',
        node.compile element path repeated maxDepth = .ok compiled →
          node.compile element' path' repeated' maxDepth' = .ok compiled' →
            compiled.value = compiled'.value := by
  have value element path repeated maxDepth compiled
      (success : node.compile element path repeated maxDepth = .ok compiled) :
      compiled.value = node.stripped := by
    rw [compilesToForm node success]
    rfl
  refine ⟨value, ?_⟩
  intro element path repeated maxDepth compiled element' path' repeated' maxDepth' compiled'
    success success'
  rw [value _ _ _ _ _ success, value _ _ _ _ _ success']

/-- A repeated mapping becomes the one element of an array, in a body as in a query. -/
theorem compile_value_eq_stripped_of_links :
    let record := Node.mapping [("a b", .matcher [.sameType] none (.integer 1))]
    let ids := Node.repetition record none none
    let links := Node.arrayContains [.generator (.uuid none) (.string "x")]
    let tree := Node.mapping [("ids", ids), ("links", links)]
    let value := Json.object
      [("ids", .array [.object [("a b", .ofInt 1)]]), ("links", .array [.string "x"])]
    ∃ compiled compiled', tree.compile .body .body false 5 = .ok compiled ∧
      tree.compile .query .empty true 7 = .ok compiled' ∧
        compiled.value = value ∧ compiled.value = compiled'.value := by
  intro record ids links tree value
  have body : tree.compile .body .body false 5 = .ok (tree.compiledForm .body .body false) := rfl
  have query : tree.compile .query .empty true 7 = .ok (tree.compiledForm .query .empty true) := rfl
  obtain ⟨stripped, agree⟩ := compile_value_eq_stripped tree
  exact ⟨_, _, body, query, stripped _ _ _ _ _ body, agree _ _ _ _ _ _ _ _ _ _ body query⟩

end Node

end ConsumerContract
