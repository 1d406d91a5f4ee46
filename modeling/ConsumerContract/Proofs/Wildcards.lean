/-
This file says what the wildcards that a path shows stand for. A path is a text, and its
wildcards are found there as occurrences of `[*]`. Each repetition that is entered on the
way down to a node writes one, and so does a quoted key for every `[*]` of its own: quoting
changes quotes only, and the quotes around a key keep its characters apart from those of
other steps. So the number is that of the repetitions exactly if no key on the way brings
a `[*]` along.
-/

import Mathlib.Algebra.GroupWithZero.Nat
import ConsumerContract.Proofs.Variants

namespace ConsumerContract

namespace Path

/-! ### Occurrences in a text -/

/-- The characters of a wildcard. -/
def wildcard : List Char := ['[', '*', ']']

theorem countWildcards_wildcard (rest : List Char) :
    countWildcards (wildcard ++ rest) = countWildcards rest + 1 :=
  rfl

/-- Where no wildcard begins, the first character does not matter. -/
theorem countWildcards_cons {char : Char} {rest : List Char}
    (other : ∀ behind, char :: rest ≠ wildcard ++ behind) :
    countWildcards (char :: rest) = countWildcards rest := by
  rw [countWildcards]
  rintro behind rfl rfl
  exact other behind rfl

theorem countWildcards_of_bare {front : List Char} (bare : ∀ char ∈ front, char ≠ '[')
    (rest : List Char) : countWildcards (front ++ rest) = countWildcards rest := by
  induction front with
  | nil => rfl
  | cons char front inductionHypothesis =>
    obtain ⟨notOpening, bareRest⟩ := List.forall_mem_cons.mp bare
    rw [List.cons_append, countWildcards_cons fun behind same =>
      notOpening (List.cons.inj same).1, inductionHypothesis bareRest]

/-- A wildcard that begins in front of a character which is none of its later ones ends in front of
that character. -/
theorem countWildcards_append {mark : Char} (notStar : mark ≠ '*') (notClosing : mark ≠ ']')
    (front rest : List Char) :
    countWildcards (front ++ mark :: rest) =
      countWildcards front + countWildcards (mark :: rest) := by
  induction front using countWildcards.induct with
  | case1 front inductionHypothesis =>
    have opened :
        '[' :: '*' :: ']' :: front ++ mark :: rest = wildcard ++ (front ++ mark :: rest) := rfl
    rw [opened, countWildcards_wildcard, inductionHypothesis, Nat.add_right_comm]
    rfl
  | case2 char front other inductionHypothesis =>
    have closed (behind : List Char) (same : front ++ mark :: rest = '*' :: ']' :: behind) :
        ∃ behind, front = '*' :: ']' :: behind := by
      match front with
      | [] => exact absurd (List.cons.inj same).1 notStar
      | [first] => exact absurd (List.cons.inj (List.cons.inj same).2).1 notClosing
      | first :: second :: behind' =>
        obtain ⟨rfl, sameRest⟩ := List.cons.inj same
        obtain ⟨rfl, -⟩ := List.cons.inj sameRest
        exact ⟨behind', rfl⟩
    have apart (behind : List Char) : char :: front ≠ wildcard ++ behind := fun same =>
      other behind (List.cons.inj same).1 (List.cons.inj same).2
    have apart' (behind : List Char) : char :: (front ++ mark :: rest) ≠ wildcard ++ behind := by
      intro same
      obtain ⟨behind', found⟩ := closed behind (List.cons.inj same).2
      exact other behind' (List.cons.inj same).1 found
    rw [countWildcards_cons apart, List.cons_append, countWildcards_cons apart',
      inductionHypothesis]
  | case3 => exact (Nat.zero_add _).symm

/-- A text without wildcards is one that has none anywhere inside. -/
theorem countWildcards_eq_zero_iff {chars : List Char} :
    countWildcards chars = 0 ↔ ¬ wildcard <:+: chars := by
  induction chars using countWildcards.induct with
  | case1 rest inductionHypothesis =>
    refine iff_of_false (Nat.succ_ne_zero _) (not_not_intro ?_)
    exact (List.prefix_append wildcard rest).isInfix
  | case2 char rest other inductionHypothesis =>
    have apart (behind : List Char) : char :: rest ≠ wildcard ++ behind := fun same =>
      other behind (List.cons.inj same).1 (List.cons.inj same).2
    rw [countWildcards_cons apart, inductionHypothesis, List.infix_cons_iff, not_or]
    refine (and_iff_right ?_).symm
    rintro ⟨behind, same⟩
    exact apart behind same.symm
  | case3 => exact iff_of_true rfl (by decide)

/-- Quoting keeps the wildcards of a key: it has no quotes in them. -/
theorem countWildcards_quotedChars (key : List Char) :
    countWildcards (quotedChars key) = countWildcards key := by
  induction key using countWildcards.induct with
  | case1 rest inductionHypothesis =>
    have kept : quotedChars ('[' :: '*' :: ']' :: rest) = wildcard ++ quotedChars rest := rfl
    rw [kept, countWildcards_wildcard, inductionHypothesis]
    rfl
  | case2 char rest other inductionHypothesis =>
    have apart (behind : List Char) : char :: rest ≠ wildcard ++ behind := fun same =>
      other behind (List.cons.inj same).1 (List.cons.inj same).2
    rw [countWildcards_cons apart, Step.quotedChars_cons, ← inductionHypothesis]
    by_cases quote : char = '\''
    · have bare : ∀ char ∈ ['\\', '\''], char ≠ '[' :=
        List.forall_mem_cons.mpr ⟨by decide, List.forall_mem_singleton.mpr (by decide)⟩
      rw [if_pos quote]
      exact countWildcards_of_bare bare _
    · rw [if_neg quote, List.singleton_append]
      refine countWildcards_cons fun behind same => ?_
      have closed : quotedChars rest ++ '\'' :: [] = ['*', ']'] ++ (behind ++ ['\'']) := by
        rw [(List.cons.inj same).2]
        rfl
      have bare : ∀ char ∈ ['*', ']'], char ≠ '\'' ∧ char ≠ '\\' :=
        List.forall_mem_cons.mpr ⟨by decide, List.forall_mem_singleton.mpr (by decide)⟩
      obtain ⟨rest', found, -⟩ := Step.quoted_prefix _ bare closed
      exact other rest' (List.cons.inj same).1 found
  | case3 => rfl

end Path

/-! ### Wildcards of steps -/

namespace Step

/-- The wildcards that the text of a step shows. -/
def wildcards : Step → Nat
  | key name => Path.countWildcards name.toList
  | index _ => 0
  | anyItem | anyMember => 1

theorem countWildcards_suffix (step : Step) (rest : List Char) :
    Path.countWildcards (step.suffix ++ rest) = step.wildcards + Path.countWildcards rest := by
  cases step with
  | key name =>
    rw [suffix, wildcards]
    by_cases plain : Path.isPlainKey name = true
    · have bare : ∀ char ∈ name.toList, char ≠ '[' := by
        rintro char member rfl
        exact absurd ((plain_of_isPlainKey plain).2 _ member) (by decide)
      have none : Path.countWildcards name.toList = 0 := by
        have counted := Path.countWildcards_of_bare bare []
        rwa [List.append_nil] at counted
      rw [if_pos plain, none, Nat.zero_add]
      exact Path.countWildcards_of_bare (List.forall_mem_cons.mpr ⟨by decide, bare⟩) rest
    · rw [if_neg plain]
      have opened :
          Path.countWildcards
              ('[' :: '\'' :: (Path.quotedChars name.toList ++ ['\'', ']']) ++ rest) =
            Path.countWildcards (Path.quotedChars name.toList ++ '\'' :: ']' :: rest) := by
        rw [List.cons_append, List.cons_append, List.append_assoc]
        rfl
      rw [opened, Path.countWildcards_append (by decide) (by decide),
        Path.countWildcards_quotedChars]
      rfl
  | index position =>
    obtain ⟨digit, others, found⟩ := map_toChar_head position
    have digits : ∀ digit : Digit, digit.toChar ≠ '[' ∧ digit.toChar ≠ '*' := by decide
    have bare : ∀ char ∈ (Digit.ofNat position).map Digit.toChar ++ [']'], char ≠ '[' := by
      intro char member
      rcases List.mem_append.mp member with member | member
      · obtain ⟨digit, -, rfl⟩ := List.mem_map.mp member
        exact (digits digit).1
      · rw [List.mem_singleton.mp member]
        decide
    rw [suffix, wildcards, Nat.zero_add, List.cons_append, Path.countWildcards_cons,
      Path.countWildcards_of_bare bare]
    intro behind same
    rw [found] at same
    exact (digits digit).2 (List.cons.inj (List.cons.inj same).2).1
  | anyItem => exact Nat.add_comm _ 1
  | anyMember => exact Nat.add_comm _ 1

/-- The names of the keys among some steps. -/
def keys (steps : List Step) : List String :=
  steps.filterMap fun
    | key name => some name
    | _ => none

/-- Whether the step leads to any part of a repeated collection. -/
def isAny : Step → Bool
  | anyItem | anyMember => true
  | _ => false

end Step

/-- A path in a body shows the wildcards of its steps and those of its keys. -/
theorem Path.wildcardCount_ofSteps (steps : List Step) :
    (Path.body.ofSteps steps).wildcardCount =
      steps.countP Step.isAny +
        ((Step.keys steps).map fun name => countWildcards name.toList).sum := by
  have rooted : body.isEmpty = false := rfl
  have root : wildcardCount (body.ofSteps steps) = countWildcards (Step.suffixes steps) := by
    rw [wildcardCount, toList_ofSteps rooted]
    exact countWildcards_of_bare (List.forall_mem_singleton.mpr (by decide)) _
  rw [root]
  clear root
  induction steps with
  | nil => rfl
  | cons step rest inductionHypothesis =>
    rw [Step.suffixes, List.flatMap_cons, Step.countWildcards_suffix, ← Step.suffixes,
      inductionHypothesis]
    cases step with
    | key name => exact Nat.add_left_comm _ _ _
    | index position => exact Nat.zero_add _
    | anyItem =>
      rw [List.countP_cons_of_pos rfl, Nat.add_right_comm]
      exact Nat.add_comm 1 _
    | anyMember =>
      rw [List.countP_cons_of_pos rfl, Nat.add_right_comm]
      exact Nat.add_comm 1 _

namespace Node

/-! ### Repetitions on the way down -/

/-- Whether the node repeats a collection. -/
def isRepetition : Node → Bool
  | repetition .. => true
  | _ => false

/-- A node of a body outside of variants, with its address and the number of the repetitions that
are entered on the way down to it. A repetition is entered by going on to its collection, so the
node itself does not count. -/
inductive Enters : Bool → Node → List Step → Nat → Node → Prop where
  | itself (repeated : Bool) (node : Node) : Enters repeated node [] 0 node
  | deeper {repeated flag : Bool} {node child part : Node} {front steps : List Step}
      {repetitions : Nat} (edge : Below .body repeated node front flag child)
      (inside : Enters flag child steps repetitions part) :
      Enters repeated node (front ++ steps) (node.isRepetition.toNat + repetitions) part

theorem Reaches.enters {repeated : Bool} {node part : Node} {steps : List Step} {level : Nat}
    (reached : Reaches .body repeated node steps level part) :
    ∃ repetitions, Enters repeated node steps repetitions part := by
  induction reached with
  | itself repeated node => exact ⟨0, .itself repeated node⟩
  | deeper edge inside inductionHypothesis =>
    obtain ⟨repetitions, entered⟩ := inductionHypothesis
    exact ⟨_, .deeper edge entered⟩

/-- One level down there is a step to any part exactly if a repetition is entered. -/
theorem Below.countP_isAny {repeated flag : Bool} {node child : Node} {front : List Step}
    (edge : Below .body repeated node front flag child) :
    front.countP Step.isAny = node.isRepetition.toNat := by
  cases edge with
  | sharedItem shared member => rfl
  | item apart found => rfl
  | member found => rfl
  | sample wrapped =>
    cases node with
    | repetition collection min max => cases wrapped
    | _ => rfl
  | collection shape =>
    cases child with
    | sequence items => rw [← Option.some.inj shape]; rfl
    | mapping members => rw [← Option.some.inj shape]; rfl
    | _ => cases shape

theorem Enters.countP_isAny {repeated : Bool} {node part : Node} {steps : List Step}
    {repetitions : Nat} (entered : Enters repeated node steps repetitions part) :
    steps.countP Step.isAny = repetitions := by
  induction entered with
  | itself repeated node => rfl
  | deeper edge inside inductionHypothesis =>
    rw [List.countP_append, edge.countP_isAny, inductionHypothesis]

end Node

/-! ### Wildcards of recorded paths -/

/-- The declaration is recorded under the text of a path. -/
def EncodedElement.Records (encoded : EncodedElement) (text : String) :
    Entries.Declaration → Prop
  | .rules ruleSet => (text, ruleSet) ∈ encoded.declared.rules
  | .generator generator => (text, generator) ∈ encoded.declared.generators

namespace Node

/-- What an encoded body records was declared by a node at that path. -/
theorem exists_declares {node : Node} {maxDepth : Nat} {encoded : EncodedElement}
    (success : node.encode .body maxDepth = .ok encoded) {text : String}
    {declaration : Entries.Declaration} (recorded : encoded.Records text declaration) :
    ∃ steps repetitions part, text = (Path.body.ofSteps steps).text ∧
      Enters false node steps repetitions part ∧ part.Declares .body declaration := by
  have same := (encode_body_eq success).2
  cases declaration with
  | rules ruleSet =>
    rw [EncodedElement.Records, same] at recorded
    obtain ⟨steps, level, part, place, reached, own⟩ := exists_ownRules recorded
    obtain ⟨repetitions, entered⟩ := reached.enters
    exact ⟨steps, repetitions, part, place, entered, own⟩
  | generator generator =>
    rw [EncodedElement.Records, same] at recorded
    obtain ⟨steps, level, part, place, reached, own⟩ := exists_ownGenerator recorded
    obtain ⟨repetitions, entered⟩ := reached.enters
    exact ⟨steps, repetitions, part, place, entered, own⟩

/-- Each path that an encoded body records belongs to a node that makes the declaration. It shows a
wildcard for every repetition that is entered on the way to the node, whichever node at this path is
taken, and besides those that the keys on the way have in them. So their number is that of the
repetitions exactly if no key has a wildcard in it. -/
theorem wildcardCount_encode_body (node : Node) (maxDepth : Nat) (encoded : EncodedElement)
    (success : node.encode .body maxDepth = .ok encoded) (path : Path)
    (declaration : Entries.Declaration) (recorded : encoded.Records path.text declaration) :
    (∃ steps repetitions part, path = .ofSteps .body steps ∧
      Enters false node steps repetitions part ∧ part.Declares .body declaration) ∧
    ∀ steps repetitions part, path = .ofSteps .body steps →
      Enters false node steps repetitions part →
        path.wildcardCount = repetitions +
            ((Step.keys steps).map fun name => Path.countWildcards name.toList).sum ∧
          (path.wildcardCount = repetitions ↔
            ∀ name ∈ Step.keys steps, ¬ Path.wildcard <:+: name.toList) := by
  constructor
  · obtain ⟨steps, repetitions, part, place, entered, declares⟩ := exists_declares success recorded
    exact ⟨steps, repetitions, part, congrArg Path.mk place, entered, declares⟩
  · rintro steps repetitions part rfl entered
    rw [Path.wildcardCount_ofSteps, entered.countP_isAny]
    refine ⟨rfl, ?_⟩
    rw [Nat.add_eq_left, List.sum_eq_zero_iff_forall_eq_nat, List.forall_mem_map]
    simp only [Path.countWildcards_eq_zero_iff]

/-- Two repetitions and a key write one wildcard each. -/
theorem wildcardCount_encode_body_of_ids :
    let part := Node.matcher [.sameType] none (.integer 1)
    let record := Node.mapping [("id", part)]
    let tree := Node.mapping
      [("it's [*]", .repetition (.sequence [.repetition record none none]) none none)]
    let steps : List Step := [.key "it's [*]", .anyItem, .anyMember, .key "id"]
    let path : Path := ⟨"$['it\\'s [*]'][*][*].*.id"⟩
    ∃ encoded, tree.encode .body 6 = .ok encoded ∧
      encoded.Records path.text (.rules ⟨[.sameType], none⟩) ∧ path = .ofSteps .body steps ∧
        Enters false tree steps 2 part ∧ path.wildcardCount = 2 + 1 ∧
          ¬ ∀ name ∈ Step.keys steps, ¬ Path.wildcard <:+: name.toList := by
  intro part record tree steps path
  obtain ⟨encoded, success, recorded⟩ : ∃ encoded, tree.encode .body 6 = .ok encoded ∧
      encoded.Records path.text (.rules ⟨[.sameType], none⟩) :=
    ⟨_, rfl, .tail _ (.tail _ (.head _))⟩
  have entered : Enters false tree steps 2 part :=
    .deeper (.member List.mem_cons_self) (.deeper (.collection rfl)
      (.deeper (.sharedItem rfl List.mem_cons_self) (.deeper (.collection rfl)
        (.deeper (.member List.mem_cons_self) (.itself false part)))))
  have place : path = .ofSteps .body steps := by decide +kernel
  obtain ⟨count, single⟩ := (wildcardCount_encode_body tree 6 encoded success path _ recorded).2
    steps 2 part place entered
  refine ⟨encoded, success, recorded, place, entered, count, ?_⟩
  rw [← single, count]
  decide

/-- The wildcard in a key is counted, although nothing is repeated on the way to its node. -/
theorem wildcard_of_key_counted :
    let tree := Node.mapping [("a[*]", .matcher [.sameType] none (.integer 1))]
    let path : Path := ⟨"$['a[*]']"⟩
    ∃ encoded, tree.encode .body defaultMaxDepth = .ok encoded ∧
      encoded.Records path.text (.rules ⟨[.sameType], none⟩) ∧ path.wildcardCount = 1 ∧
        ∀ steps repetitions part, path = .ofSteps .body steps →
          Enters false tree steps repetitions part → repetitions = 0 := by
  intro tree path
  refine ⟨_, rfl, List.mem_cons_self, by decide +kernel, ?_⟩
  intro steps repetitions part place entered
  have here : Path.body.ofSteps [.key "a[*]"] = .ofSteps .body steps := place.symm ▸ rfl
  rw [← Path.ofSteps_injective rfl here] at entered
  exact entered.countP_isAny.symm

end Node

end ConsumerContract
