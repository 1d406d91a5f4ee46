/-
This file proves that an expression is found in a text exactly if it matches between
two places of it. What an expression matches is a relation between places: parts one
after the other compose, branches are alternatives, and a repetition is a number of
rounds. The search for an expression begins with nothing read, and keeps that relation
although it is built in another way: parts are joined in a tree of little depth, and a
repetition becomes as many copies of its content as can make a difference.
-/

import Mathlib.Data.List.Forall2
import ConsumerContract.Proofs.Searches

namespace ConsumerContract.Pattern

/-! ### Rounds -/

/-- From one place to another, a relation is followed this often. -/
def Rounds (relation : Cursor → Cursor → Prop) : Nat → Cursor → Cursor → Prop
  | 0 => Eq
  | count + 1 => Relation.Comp relation (Rounds relation count)

/-- From one place to another, a relation is followed from `min` to `max` times. -/
def RoundsWithin (relation : Cursor → Cursor → Prop) (min : Nat) (max : Option Nat)
    (first last : Cursor) : Prop :=
  ∃ count, min ≤ count ∧ (∀ most ∈ max, count ≤ most) ∧ Rounds relation count first last

section Rounds

variable {relation : Cursor → Cursor → Prop} {first last : Cursor}

theorem rounds_one : Rounds relation 1 = relation :=
  Relation.comp_eq

theorem rounds_add (count others : Nat) :
    Rounds relation (count + others) =
      Relation.Comp (Rounds relation count) (Rounds relation others) := by
  induction count with
  | zero => rw [Nat.zero_add, Rounds, Relation.eq_comp]
  | succ count inductionHypothesis =>
    rw [Nat.succ_add, Rounds, Rounds, Relation.comp_assoc, inductionHypothesis]

/-- Rounds that may be left out are rounds that are not more than these. -/
theorem rounds_optional_iff {count : Nat} :
    Rounds (fun first last => relation first last ∨ first = last) count first last ↔
      ∃ taken ≤ count, Rounds relation taken first last := by
  induction count generalizing first with
  | zero => simp [Rounds]
  | succ count inductionHypothesis =>
    constructor
    · rintro ⟨middle, step | rfl, rounds⟩
      · obtain ⟨taken, bound, rounds⟩ := inductionHypothesis.mp rounds
        exact ⟨taken + 1, Nat.succ_le_succ bound, middle, step, rounds⟩
      · obtain ⟨taken, bound, rounds⟩ := inductionHypothesis.mp rounds
        exact ⟨taken, Nat.le_succ_of_le bound, rounds⟩
    · rintro ⟨_ | taken, bound, rounds⟩
      · exact ⟨first, .inr rfl, inductionHypothesis.mpr ⟨0, Nat.zero_le _, rounds⟩⟩
      · obtain ⟨middle, step, rounds⟩ := rounds
        exact ⟨middle, .inl step,
          inductionHypothesis.mpr ⟨taken, Nat.le_of_succ_le_succ bound, rounds⟩⟩

theorem transGen_iff_rounds :
    Relation.TransGen relation first last ↔ ∃ count, Rounds relation (count + 1) first last := by
  constructor
  · intro rounds
    induction rounds using Relation.TransGen.head_induction_on with
    | single step => exact ⟨0, last, step, rfl⟩
    | head step _ inductionHypothesis =>
      obtain ⟨count, rounds⟩ := inductionHypothesis
      exact ⟨count + 1, _, step, rounds⟩
  · rintro ⟨count, rounds⟩
    induction count generalizing first with
    | zero => exact .single (by rwa [rounds_one] at rounds)
    | succ count inductionHypothesis =>
      obtain ⟨middle, step, rounds⟩ := rounds
      exact .head step (inductionHypothesis rounds)

/-- Rounds up to a bound are the least number of rounds, and some more that may be left out. -/
theorem roundsWithin_some {min max : Nat} (ordered : min ≤ max) :
    RoundsWithin relation min (some max) = Relation.Comp (Rounds relation min)
      (Rounds (fun first last => relation first last ∨ first = last) (max - min)) := by
  ext first last
  constructor
  · rintro ⟨count, least, most, rounds⟩
    have bound := most max rfl
    rw [show count = min + (count - min) by omega, rounds_add] at rounds
    obtain ⟨middle, required, further⟩ := rounds
    exact ⟨middle, required, rounds_optional_iff.mpr ⟨count - min, by omega, further⟩⟩
  · rintro ⟨middle, required, further⟩
    obtain ⟨taken, bound, further⟩ := rounds_optional_iff.mp further
    refine ⟨min + taken, Nat.le_add_right .., ?_, ?_⟩
    · rintro most ⟨⟩
      omega
    · rw [rounds_add]
      exact ⟨middle, required, further⟩

theorem roundsWithin_zero_none :
    RoundsWithin relation 0 none =
      fun first last => Relation.TransGen relation first last ∨ first = last := by
  ext first last
  rw [transGen_iff_rounds]
  constructor
  · rintro ⟨_ | count, -, -, rounds⟩
    · exact .inr rounds
    · exact .inl ⟨count, rounds⟩
  · rintro (⟨count, rounds⟩ | stays)
    · exact ⟨count + 1, Nat.zero_le _, nofun, rounds⟩
    · exact ⟨0, Nat.zero_le _, nofun, stays⟩

theorem roundsWithin_succ_none {min : Nat} :
    RoundsWithin relation (min + 1) none =
      Relation.Comp (Rounds relation min) (Relation.TransGen relation) := by
  ext first last
  constructor
  · rintro ⟨count, least, -, rounds⟩
    rw [show count = min + (count - (min + 1) + 1) by omega, rounds_add] at rounds
    obtain ⟨middle, toMiddle, further⟩ := rounds
    exact ⟨middle, toMiddle, transGen_iff_rounds.mpr ⟨_, further⟩⟩
  · rintro ⟨middle, toMiddle, further⟩
    obtain ⟨count, further⟩ := transGen_iff_rounds.mp further
    refine ⟨min + (count + 1), by omega, nofun, ?_⟩
    rw [rounds_add]
    exact ⟨middle, toMiddle, further⟩

/-- A relation that leads nowhere is followed as often as needed, if at all. -/
theorem rounds_succ_of_stays (stays : ∀ {first last}, relation first last → first = last)
    {count : Nat} : Rounds relation (count + 1) first last ↔ relation first last := by
  induction count generalizing first with
  | zero => rw [rounds_one]
  | succ count inductionHypothesis =>
    constructor
    · rintro ⟨middle, step, rounds⟩
      exact stays step ▸ inductionHypothesis.mp rounds
    · intro step
      exact ⟨first, stays step ▸ step, inductionHypothesis.mpr step⟩

end Rounds

/-! ### What an expression matches -/

namespace Regex

mutual

/-- From one place to another, an expression matches. -/
def Matches : Regex → Cursor → Cursor → Prop
  | empty => Eq
  | text chars => Cursor.Reads chars
  | oneOf set => fun first last =>
    ∃ char, set.members.contains char = true ∧ Cursor.Reads [char] first last
  | condition kind => fun first last => kind.holds first.surroundings = true ∧ first = last
  | concatenation parts => MatchesInOrder parts
  | alternation branches => MatchesAny branches
  | repetition content min max _ => RoundsWithin (Matches content) min max
  | group _ content => Matches content

/-- From one place to another, some expressions match one after the other. -/
def MatchesInOrder : List Regex → Cursor → Cursor → Prop
  | [] => Eq
  | part :: rest => Relation.Comp (Matches part) (MatchesInOrder rest)

/-- From one place to another, one of some expressions matches. -/
def MatchesAny : List Regex → Cursor → Cursor → Prop
  | [] => fun _ _ => False
  | branch :: rest => fun first last => Matches branch first last ∨ MatchesAny rest first last

end

mutual

/-- No repetition in an expression has to be tried more often than it can be. -/
def BoundsOrdered : Regex → Prop
  | empty | text _ | oneOf _ | condition _ => True
  | concatenation parts => AllBoundsOrdered parts
  | alternation branches => AllBoundsOrdered branches
  | repetition content min max _ => (∀ most ∈ max, min ≤ most) ∧ BoundsOrdered content
  | group _ content => BoundsOrdered content

/-- No repetition in some expressions has to be tried more often than it can be. -/
def AllBoundsOrdered : List Regex → Prop
  | [] => True
  | regex :: rest => BoundsOrdered regex ∧ AllBoundsOrdered rest

end

/-! ### Expressions that read nothing -/

theorem eq_nil_of_textLength {chars : List Char} (nothing : textLength chars = 0) : chars = [] := by
  have grows (chars : List Char) (length : Nat) :
      length ≤ chars.foldl (fun length char => length + char.utf8Size) length := by
    induction chars generalizing length with
    | nil => exact Nat.le_refl _
    | cons char rest inductionHypothesis =>
      exact Nat.le_trans (Nat.le_add_right ..) (inductionHypothesis _)
  cases chars with
  | nil => rfl
  | cons char rest =>
    have atLeast := grows rest (0 + char.utf8Size)
    have positive := char.utf8Size_pos
    rw [textLength, List.foldl_cons] at nothing
    omega

mutual

theorem eq_of_longest_zero {regex : Regex} {first last : Cursor} (nothing : regex.longest = some 0)
    (matched : regex.Matches first last) : first = last := by
  match regex with
  | empty => exact matched
  | text chars =>
    obtain rfl := eq_nil_of_textLength (Option.some.inj nothing)
    rwa [Matches, Cursor.reads_nil] at matched
  | oneOf set =>
    obtain ⟨range, -, size⟩ := Option.map_eq_some_iff.mp nothing
    exact absurd size (Nat.pos_iff_ne_zero.mp (Char.utf8Size_pos _))
  | condition kind => exact matched.2
  | concatenation parts => exact eq_of_longestInAll_zero nothing matched
  | alternation branches => exact eq_of_longestOfAny_zero nothing matched
  | repetition content min max greedy =>
    obtain ⟨count, -, bound, rounds⟩ := matched
    match max, count, ofContent : content.longest with
    | _, 0, _ => exact rounds
    | none, _ + 1, _ => cases nothing
    | some 0, _ + 1, _ => exact absurd (bound 0 rfl) (Nat.not_succ_le_zero _)
    | some (most + 1), _ + 1, none => simp [longest, ofContent] at nothing
    | some (most + 1), _ + 1, some length =>
      have noLength : length = 0 := by
        simp only [longest, ofContent, Option.some.injEq] at nothing
        exact (Nat.mul_eq_zero.mp nothing).resolve_right (Nat.succ_ne_zero most)
      have stays {first last : Cursor} (step : content.Matches first last) : first = last :=
        eq_of_longest_zero (noLength ▸ ofContent) step
      exact stays ((rounds_succ_of_stays stays).mp rounds)
  | group _ content => exact @eq_of_longest_zero content _ _ nothing matched

theorem eq_of_longestInAll_zero {parts : List Regex} {first last : Cursor}
    (nothing : longestInAll parts = some 0) (matched : MatchesInOrder parts first last) :
    first = last := by
  match parts with
  | [] => exact matched
  | part :: rest =>
    obtain ⟨middle, toMiddle, toLast⟩ := matched
    rw [longestInAll] at nothing
    split at nothing
    · next length others ofPart ofRest =>
      rw [Option.some.injEq, Nat.add_eq_zero_iff] at nothing
      exact (eq_of_longest_zero (nothing.1 ▸ ofPart) toMiddle).trans
        (eq_of_longestInAll_zero (nothing.2 ▸ ofRest) toLast)
    · cases nothing

theorem eq_of_longestOfAny_zero {branches : List Regex} {first last : Cursor}
    (nothing : longestOfAny branches = some 0) (matched : MatchesAny branches first last) :
    first = last := by
  match branches with
  | [] => exact matched.elim
  | [branch] => exact eq_of_longest_zero nothing (matched.resolve_right id)
  | branch :: other :: rest =>
    rw [longestOfAny] at nothing
    split at nothing
    · next length others ofBranch ofRest =>
      rw [Option.some.injEq, Nat.max_eq_zero_iff] at nothing
      exact matched.elim (eq_of_longest_zero (nothing.1 ▸ ofBranch))
        (eq_of_longestOfAny_zero (nothing.2 ▸ ofRest))
    · cases nothing
    · simp

end

/-- What reads nothing is repeated once or never. -/
theorem roundsWithin_iff_of_stays {relation : Cursor → Cursor → Prop}
    (stays : ∀ {first last}, relation first last → first = last) {min : Nat} {max : Option Nat}
    (ordered : ∀ most ∈ max, min ≤ most) {first last : Cursor} :
    RoundsWithin relation min max first last ↔
      min = 0 ∧ first = last ∨ max ≠ some 0 ∧ relation first last := by
  constructor
  · rintro ⟨_ | count, least, most, rounds⟩
    · exact .inl ⟨Nat.le_zero.mp least, rounds⟩
    · refine .inr ⟨?_, (rounds_succ_of_stays stays).mp rounds⟩
      intro never
      exact Nat.not_succ_le_zero count (most 0 never)
  · rintro (⟨rfl, stays⟩ | ⟨possible, step⟩)
    · exact ⟨0, Nat.le_refl _, fun most _ => Nat.zero_le most, stays⟩
    · refine ⟨min + 1 - 1 + (1 - min), by omega, ?_, ?_⟩
      · rintro most rfl
        have least := ordered most rfl
        have positive : most ≠ 0 := fun zero => possible (congrArg some zero)
        omega
      · rw [show min + 1 - 1 + (1 - min) = min - 1 + 1 by omega]
        exact (rounds_succ_of_stays stays).mpr step

/-- A repetition can be tried as often as it is told to be, and matches the same. -/
theorem roundsWithin_rounds {content : Regex} {min : Nat} {max : Option Nat}
    (ordered : ∀ most ∈ max, min ≤ most) :
    (∀ most ∈ (content.rounds min max).2, (content.rounds min max).1 ≤ most) ∧
      RoundsWithin content.Matches (content.rounds min max).1 (content.rounds min max).2 =
        RoundsWithin content.Matches min max := by
  rw [rounds]
  split
  · next nothing =>
    have stays {first last : Cursor} : content.Matches first last → first = last :=
      eq_of_longest_zero (of_decide_eq_true nothing)
    have onceOrdered : ∀ most ∈ some ((max.map (Nat.min · 1)).getD 1), Nat.min min 1 ≤ most := by
      rintro _ ⟨⟩
      cases max with
      | none => exact Nat.min_le_right min 1
      | some max =>
        exact Nat.le_min.mpr ⟨Nat.le_trans (Nat.min_le_left min 1) (ordered max rfl),
          Nat.min_le_right min 1⟩
    refine ⟨onceOrdered, ?_⟩
    ext first last
    rw [roundsWithin_iff_of_stays stays onceOrdered, roundsWithin_iff_of_stays stays ordered]
    have onceZero (count : Nat) : Nat.min count 1 = 0 ↔ count = 0 := by
      change Min.min count 1 = 0 ↔ count = 0
      omega
    have mostZero : some ((max.map (Nat.min · 1)).getD 1) = some 0 ↔ max = some 0 := by
      cases max with
      | none => exact iff_of_false nofun nofun
      | some max =>
        rw [Option.map_some, Option.getD_some, Option.some_inj, Option.some_inj, onceZero]
    rw [onceZero, ne_eq, mostZero]
  · exact ⟨ordered, rfl⟩

end Regex

/-! ### Searches that begin -/

namespace Search

/-- A search begins at a place: it has read nothing so far, and matches as a relation says. -/
structure Begins (place : Surroundings) (relation : Cursor → Cursor → Prop) (search : Search) :
    Prop where
  isCurrent : search.IsCurrent place
  unmarked : ∀ current last, ¬ search.Ends current last
  means : search.Matches = relation

section Begins

variable {place : Surroundings} {relation other : Cursor → Cursor → Prop} {search : Search}

theorem empty_begins : empty.Begins place Eq :=
  ⟨.empty, fun _ _ => id, rfl⟩

theorem nothing_begins : nothing.Begins place fun _ _ => False := by
  refine ⟨.read _ _, fun _ _ ends => Bool.false_ne_true ends.1, ?_⟩
  ext first last
  refine iff_of_false ?_ id
  rintro ⟨char, member, -⟩
  exact Bool.false_ne_true member

theorem followedBy_begins {first second : Search} (ofFirst : first.Begins place relation)
    (ofSecond : second.Begins place other) :
    (first.followedBy second).Begins place (Relation.Comp relation other) := by
  refine ⟨.followedBy ofFirst.isCurrent ofSecond.isCurrent, ?_, ?_⟩
  · rintro current last (⟨middle, ends, -⟩ | ends)
    · exact ofFirst.unmarked current middle ends
    · exact ofSecond.unmarked current last ends
  · exact congrArg₂ Relation.Comp ofFirst.means ofSecond.means

theorem orElse_begins {one another : Search} (ofOne : one.Begins place relation)
    (ofOther : another.Begins place other) :
    (one.orElse another).Begins place fun first last =>
      relation first last ∨ other first last := by
  refine ⟨.orElse ofOne.isCurrent ofOther.isCurrent, ?_, ?_⟩
  · exact fun current last ends =>
      ends.elim (ofOne.unmarked current last) (ofOther.unmarked current last)
  · rw [orElse, Matches, ofOne.means, ofOther.means]

theorem repeated_begins (ofContent : search.Begins place relation) :
    search.repeated.Begins place (Relation.TransGen relation) := by
  refine ⟨.repeated ofContent.isCurrent, ?_, congrArg Relation.TransGen ofContent.means⟩
  rintro current last ⟨middle, ends, -⟩
  exact ofContent.unmarked current middle ends

theorem copies_begins (begins : search.Begins place relation) (count : Nat) :
    (search.copies count).Begins place (Rounds relation count) := by
  fun_induction copies search count with
  | case1 => exact empty_begins
  | case2 => rwa [rounds_one]
  | case3 count _ _ half even inductionHypothesis =>
    have halves : count / 2 + count / 2 = count := by omega
    rw [← halves, rounds_add]
    exact followedBy_begins inductionHypothesis inductionHypothesis
  | case4 count _ _ half odd inductionHypothesis =>
    have halves : 1 + (count / 2 + count / 2) = count := by omega
    rw [← halves, rounds_add, rounds_one, rounds_add]
    exact followedBy_begins begins (followedBy_begins inductionHypothesis inductionHypothesis)

theorem rounds_begins (begins : search.Begins place relation) {min : Nat} {max : Option Nat}
    (ordered : ∀ most ∈ max, min ≤ most) :
    (search.rounds min max).Begins place (RoundsWithin relation min max) := by
  cases max with
  | some max =>
    rw [roundsWithin_some (ordered max rfl)]
    exact followedBy_begins (copies_begins begins min)
      (copies_begins (orElse_begins begins empty_begins) (max - min))
  | none =>
    cases min with
    | zero =>
      rw [roundsWithin_zero_none]
      exact orElse_begins (repeated_begins begins) empty_begins
    | succ min =>
      rw [roundsWithin_succ_none]
      exact followedBy_begins (copies_begins begins min) (repeated_begins begins)

end Begins

/-! ### Searches that are joined -/

section Joined

variable {Value : Type*} {stands : Value → Search → Prop} {operation : Value → Value → Value}
  {unit : Value} {join : Search → Search → Search} {none : Search}

theorem exists_paired (joins : ∀ {one other first second}, stands one first → stands other second →
      stands (operation one other) (join first second))
    (associative : ∀ one other third,
      operation (operation one other) third = operation one (operation other third))
    {values : List Value} {searches : List Search} (each : List.Forall₂ stands values searches) :
    ∃ pairs, List.Forall₂ stands pairs (paired join searches) ∧
      pairs.foldr operation unit = values.foldr operation unit := by
  fun_induction paired join searches generalizing values with
  | case1 first second rest inductionHypothesis =>
    obtain @⟨⟩ | @⟨one, _, _, _, standsFirst, @⟨⟩ | @⟨other, _, others, _, standsSecond, behind⟩⟩ :=
      each
    obtain ⟨pairs, stand, same⟩ := inductionHypothesis behind
    refine ⟨operation one other :: pairs, .cons (joins standsFirst standsSecond) stand, ?_⟩
    rw [List.foldr_cons, same, associative]
    rfl
  | case2 => exact ⟨values, each, rfl⟩

/-- What searches stand for that are joined in a tree is what they stand for one by one. -/
theorem joined_stands (joins : ∀ {one other first second}, stands one first → stands other second →
      stands (operation one other) (join first second))
    (associative : ∀ one other third,
      operation (operation one other) third = operation one (operation other third))
    (right : ∀ value, operation value unit = value) (ofNone : stands unit none)
    {values : List Value} {searches : List Search} (each : List.Forall₂ stands values searches) :
    stands (values.foldr operation unit) (joined join none searches) := by
  fun_induction joined join none searches generalizing values with
  | case1 =>
    cases each
    exact ofNone
  | case2 search =>
    obtain @⟨⟩ | @⟨value, _, _, _, stand, ⟨⟩⟩ := each
    rwa [List.foldr_cons, List.foldr_nil, right]
  | case3 first second rest inductionHypothesis =>
    obtain ⟨pairs, stand, same⟩ := exists_paired joins associative each
    exact same ▸ inductionHypothesis stand

end Joined

end Search

/-! ### What is found -/

namespace Regex

theorem matchesInOrder_eq_foldr (parts : List Regex) :
    MatchesInOrder parts = (parts.map Matches).foldr Relation.Comp Eq := by
  induction parts with
  | nil => rfl
  | cons part rest inductionHypothesis =>
    rw [MatchesInOrder, inductionHypothesis, List.map_cons, List.foldr_cons]

theorem matchesAny_eq_foldr (branches : List Regex) :
    MatchesAny branches = (branches.map Matches).foldr
      (fun relation other first last => relation first last ∨ other first last)
      fun _ _ => False := by
  induction branches with
  | nil => rfl
  | cons branch rest inductionHypothesis =>
    rw [MatchesAny, inductionHypothesis, List.map_cons, List.foldr_cons]

theorem contains_single_iff {char other : Char} :
    (Ranges.single char).contains other = true ↔ other = char := by
  simp only [Ranges.contains, Ranges.containsPoint, Ranges.single, Ranges.span, List.any_cons,
    List.any_nil, Bool.or_false, Bool.and_eq_true, decide_eq_true_eq]
  exact ⟨fun bounds => Char.toNat_inj.mp (Nat.le_antisymm bounds.2 bounds.1),
    fun same => same ▸ ⟨Nat.le_refl _, Nat.le_refl _⟩⟩

/-- The search for a character matches where that is read. -/
theorem read_single_begins (place : Surroundings) (char : Char) :
    (Search.read (.single char) false).Begins place (Cursor.Reads [char]) := by
  refine ⟨.read _ _, fun _ _ ends => Bool.false_ne_true ends.1, ?_⟩
  ext first last
  simp only [Search.Matches, contains_single_iff, exists_eq_left]

mutual

/-- The search for an expression begins with nothing read, and matches what the expression does. -/
theorem searchAt_begins (place : Surroundings) {regex : Regex} (ordered : regex.BoundsOrdered) :
    (regex.searchAt place).Begins place regex.Matches := by
  match regex with
  | empty => exact Search.empty_begins
  | text chars =>
    rw [searchAt, Matches, Cursor.reads_eq_foldr]
    refine Search.joined_stands Search.followedBy_begins (fun _ _ _ => Relation.comp_assoc)
      (fun _ => Relation.comp_eq) Search.empty_begins ?_
    rw [List.forall₂_map_left_iff, List.forall₂_map_right_iff, List.forall₂_same]
    exact fun char _ => read_single_begins place char
  | oneOf set => exact ⟨.read _ _, fun _ _ ends => Bool.false_ne_true ends.1, rfl⟩
  | condition kind => exact ⟨.condition kind, fun _ _ => id, rfl⟩
  | concatenation parts =>
    rw [searchAt, Matches, matchesInOrder_eq_foldr]
    exact Search.joined_stands Search.followedBy_begins (fun _ _ _ => Relation.comp_assoc)
      (fun _ => Relation.comp_eq) Search.empty_begins (searchesAt_begin place ordered)
  | alternation branches =>
    rw [searchAt, Matches, matchesAny_eq_foldr]
    exact Search.joined_stands Search.orElse_begins
      (fun _ _ _ => funext₂ fun _ _ => propext or_assoc)
      (fun _ => funext₂ fun _ _ => or_false _) Search.nothing_begins
      (searchesAt_begin place ordered)
  | repetition content min max greedy =>
    obtain ⟨roundsOrdered, sameRounds⟩ := @roundsWithin_rounds content _ _ ordered.1
    rw [Matches, ← sameRounds]
    exact Search.rounds_begins (searchAt_begins place ordered.2) roundsOrdered
  | group _ content => exact @searchAt_begins place content ordered

theorem searchesAt_begin (place : Surroundings) {regexes : List Regex}
    (ordered : AllBoundsOrdered regexes) :
    List.Forall₂ (Search.Begins place) (regexes.map Matches) (searchesAt place regexes) := by
  match regexes with
  | [] => exact .nil
  | regex :: rest =>
    exact .cons (searchAt_begins place ordered.1) (searchesAt_begin place ordered.2)

end

/-- A part of a text matches exactly if the expression does between two of its places. -/
theorem matchesIn_iff {regex : Regex} (ordered : regex.BoundsOrdered) (text : List Char) :
    regex.matchesIn text = true ↔ ∃ first last, ⟨[], text⟩ ≤ first ∧ regex.Matches first last := by
  have begins := searchAt_begins (⟨[], text⟩ : Cursor).surroundings ordered
  refine (Search.finds_iff begins.isCurrent).trans ?_
  rw [begins.means]
  exact or_iff_right fun ⟨last, ends⟩ => begins.unmarked _ last ends

end Regex

end ConsumerContract.Pattern
