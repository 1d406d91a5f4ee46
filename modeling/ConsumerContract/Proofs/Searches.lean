/-
This file says what a search finds. A search matches between two places of a text:
what it reads leads from the one to the other, and its conditions hold where they
stand. It finds the matches that are under way, and those that begin further on.

The search never goes back in the text, so its marks have to stand for all matches
that are under way. That is the invariant of a step: from the place behind the next
character, the marks reach those places that the matches reached that were under way
in front of it, and those that begin there, except for the place itself that they
leave. The places of a text are ordered, and matches lead forward; so what an
expression does without reading can be told from its answers at one place.
-/

import Mathlib.Logic.Relation
import Mathlib.Order.Basic
import Mathlib.Tactic.Tauto
import ConsumerContract.Pattern.Search

namespace ConsumerContract.Pattern

/-! ### Places of a text -/

/-- A place of a text: the characters in front of it, the nearest one first, and those behind. -/
structure Cursor where
  before : List Char
  after : List Char

namespace Cursor

/-- The characters next to a place. -/
def surroundings (place : Cursor) : Surroundings :=
  ⟨place.before.head?, place.after.head?⟩

/-- From one place to another, these characters are read. -/
def Reads (chars : List Char) (first last : Cursor) : Prop :=
  first.after = chars ++ last.after ∧ last.before = chars.reverse ++ first.before

theorem reads_nil : Reads [] = Eq := by
  ext first last
  constructor
  · rintro ⟨after, before⟩
    exact congrArg₂ Cursor.mk before.symm after
  · rintro rfl
    exact ⟨rfl, rfl⟩

theorem reads_append (chars others : List Char) :
    Reads (chars ++ others) = Relation.Comp (Reads chars) (Reads others) := by
  ext first last
  constructor
  · rintro ⟨after, before⟩
    refine ⟨⟨chars.reverse ++ first.before, others ++ last.after⟩, ⟨?_, rfl⟩, rfl, ?_⟩
    · rw [after, List.append_assoc]
    · rw [before, List.reverse_append, List.append_assoc]
  · rintro ⟨middle, ⟨after, before⟩, afterMiddle, beforeMiddle⟩
    constructor
    · rw [after, afterMiddle, List.append_assoc]
    · rw [beforeMiddle, before, List.reverse_append, List.append_assoc]

theorem reads_eq_foldr (chars : List Char) :
    Reads chars = (chars.map fun char => Reads [char]).foldr Relation.Comp Eq := by
  induction chars with
  | nil => exact reads_nil
  | cons char rest inductionHypothesis =>
    rw [← List.singleton_append, reads_append, inductionHypothesis]
    rfl

/-- One place is not behind another: something can be read from the one to the other. -/
instance : LE Cursor where
  le first last := ∃ chars, Reads chars first last

theorem le_of_reads {chars : List Char} {first last : Cursor} (reads : Reads chars first last) :
    first ≤ last :=
  ⟨chars, reads⟩

instance : PartialOrder Cursor where
  le_refl place := ⟨[], rfl, rfl⟩
  le_trans := by
    rintro first middle last ⟨chars, toMiddle⟩ ⟨others, toLast⟩
    exact ⟨chars ++ others, by rw [reads_append]; exact ⟨middle, toMiddle, toLast⟩⟩
  le_antisymm := by
    rintro first last ⟨chars, after, before⟩ ⟨others, otherAfter, -⟩
    have lengths := congrArg List.length after
    have otherLengths := congrArg List.length otherAfter
    rw [List.length_append] at lengths otherLengths
    have nothing : chars = [] := List.eq_nil_of_length_eq_zero (by omega)
    subst nothing
    exact congrArg₂ Cursor.mk before.symm after

/-- No place is behind the end. -/
theorem eq_of_atEnd {place : Cursor} {before : List Char} (behind : ⟨before, []⟩ ≤ place) :
    place = ⟨before, []⟩ := by
  obtain ⟨chars, after, reversed⟩ := behind
  obtain ⟨rfl, afterEmpty⟩ := List.append_eq_nil_iff.mp after.symm
  exact congrArg₂ Cursor.mk reversed afterEmpty

variable {before rest : List Char} {char : Char}

/-- The places from one on are that one and those from the next one on. -/
theorem le_iff_of_cons {place : Cursor} :
    ⟨before, char :: rest⟩ ≤ place ↔
      place = ⟨before, char :: rest⟩ ∨ ⟨char :: before, rest⟩ ≤ place := by
  constructor
  · rintro ⟨_ | ⟨head, chars⟩, after, reversed⟩
    · exact .inl (congrArg₂ Cursor.mk reversed after.symm)
    · obtain ⟨rfl, rest⟩ := List.cons.inj after
      refine .inr ⟨chars, rest, ?_⟩
      rw [reversed, List.reverse_cons, List.append_assoc, List.singleton_append]
  · rintro (rfl | behind)
    · exact le_rfl
    · exact le_trans ⟨[char], rfl, rfl⟩ behind

theorem reads_single_iff {read : Char} {place : Cursor} :
    Reads [read] ⟨before, char :: rest⟩ place ↔ read = char ∧ place = ⟨char :: before, rest⟩ := by
  constructor
  · rintro ⟨after, reversed⟩
    obtain ⟨rfl, rfl⟩ := List.cons.inj after
    exact ⟨rfl, congrArg₂ Cursor.mk reversed rfl⟩
  · rintro ⟨rfl, rfl⟩
    exact ⟨rfl, rfl⟩

theorem not_le_of_cons : ¬ (⟨char :: before, rest⟩ : Cursor) ≤ ⟨before, char :: rest⟩ := by
  rintro ⟨chars, after, -⟩
  have lengths := congrArg List.length after
  rw [List.length_append, List.length_cons] at lengths
  dsimp only at lengths
  omega

theorem not_reads_self {char : Char} {place : Cursor} : ¬ Reads [char] place place := by
  rintro ⟨after, -⟩
  simpa using congrArg List.length after

end Cursor

/-! ### Where a search is -/

namespace Search

/-- From one place to another, an expression matches. -/
def Matches : Search → Cursor → Cursor → Prop
  | empty => Eq
  | read set _ => fun first last => ∃ char, set.contains char = true ∧ first.Reads [char] last
  | condition kind _ => fun first last => kind.holds first.surroundings = true ∧ first = last
  | both _ _ first second => Relation.Comp first.Matches second.Matches
  | either _ _ one other => fun first last => one.Matches first last ∨ other.Matches first last
  | loop _ _ content => Relation.TransGen content.Matches

/-- From the current place, a match that is under way can lead to its end at the other place. -/
def Ends : Search → Cursor → Cursor → Prop
  | empty | condition _ _ => fun _ _ => False
  | read _ marked => fun current last => marked = true ∧ current = last
  | both _ _ first second => fun current last =>
    Relation.Comp first.Ends second.Matches current last ∨ second.Ends current last
  | either _ _ one other => fun current last => one.Ends current last ∨ other.Ends current last
  | loop _ _ content => Relation.Comp content.Ends (Relation.ReflTransGen content.Matches)

/-- The answers of a search are those at a place: its conditions say whether they hold there, and
its compound expressions say what follows from their parts. -/
inductive IsCurrent (place : Surroundings) : Search → Prop where
  | empty : IsCurrent place empty
  | read (set : Ranges) (marked : Bool) : IsCurrent place (read set marked)
  | condition (kind : Condition) : IsCurrent place (condition kind (kind.holds place))
  | followedBy {first second : Search} (ofFirst : IsCurrent place first)
      (ofSecond : IsCurrent place second) : IsCurrent place (first.followedBy second)
  | orElse {one other : Search} (ofOne : IsCurrent place one) (ofOther : IsCurrent place other) :
      IsCurrent place (one.orElse other)
  | repeated {content : Search} (ofContent : IsCurrent place content) :
      IsCurrent place content.repeated

/-! ### Matches lead forward -/

theorem Matches.le {search : Search} {first last : Cursor} (matched : search.Matches first last) :
    first ≤ last := by
  induction search generalizing first last with
  | empty => exact le_of_eq matched
  | read set marked =>
    obtain ⟨char, -, reads⟩ := matched
    exact Cursor.le_of_reads reads
  | condition kind holds => exact le_of_eq matched.2
  | both _ _ one other ofOne ofOther =>
    obtain ⟨middle, toMiddle, toLast⟩ := matched
    exact le_trans (ofOne toMiddle) (ofOther toLast)
  | either _ _ one other ofOne ofOther => exact matched.elim ofOne ofOther
  | loop _ _ content ofContent =>
    induction matched with
    | single step => exact ofContent step
    | tail _ step led => exact le_trans led (ofContent step)

theorem le_of_rounds {search : Search} {first last : Cursor}
    (rounds : Relation.ReflTransGen search.Matches first last) : first ≤ last := by
  induction rounds with
  | refl => exact le_rfl
  | tail _ step led => exact le_trans led step.le

theorem Ends.le {search : Search} {current last : Cursor} (ends : search.Ends current last) :
    current ≤ last := by
  induction search generalizing current last with
  | empty => exact ends.elim
  | read set marked => exact le_of_eq ends.2
  | condition kind holds => exact ends.elim
  | both _ _ first second ofFirst ofSecond =>
    obtain ⟨middle, toMiddle, toLast⟩ | toLast := ends
    · exact le_trans (ofFirst toMiddle) toLast.le
    · exact ofSecond toLast
  | either _ _ one other ofOne ofOther => exact ends.elim ofOne ofOther
  | loop _ _ content ofContent =>
    obtain ⟨middle, toMiddle, rounds⟩ := ends
    exact le_trans (ofContent toMiddle) (le_of_rounds rounds)

/-- Rounds that lead on begin with one that does. -/
theorem exists_leadingOn {search : Search} {first last : Cursor} (differ : first ≠ last)
    (rounds : Relation.ReflTransGen search.Matches first last) :
    ∃ middle, search.Matches first middle ∧ first ≠ middle ∧
      Relation.ReflTransGen search.Matches middle last := by
  induction rounds using Relation.ReflTransGen.head_induction_on with
  | refl => exact absurd rfl differ
  | @head first middle step rounds inductionHypothesis =>
    rcases eq_or_ne first middle with rfl | leadsOn
    · exact inductionHypothesis differ
    · exact ⟨middle, step, leadsOn, rounds⟩

/-! ### The answers at a place -/

theorem passes_iff {search : Search} {current : Cursor}
    (isCurrent : search.IsCurrent current.surroundings) :
    search.passes = true ↔ search.Matches current current := by
  induction isCurrent with
  | empty => exact iff_of_true rfl rfl
  | read set marked =>
    refine iff_of_false Bool.false_ne_true ?_
    rintro ⟨char, -, reads⟩
    exact Cursor.not_reads_self reads
  | condition kind => exact (and_iff_left rfl).symm
  | @followedBy first second _ _ ofFirst ofSecond =>
    rw [followedBy, passes, Bool.and_eq_true, ofFirst, ofSecond]
    constructor
    · rintro ⟨firstPasses, secondPasses⟩
      exact ⟨current, firstPasses, secondPasses⟩
    · rintro ⟨middle, toMiddle, toLast⟩
      obtain rfl := le_antisymm toMiddle.le toLast.le
      exact ⟨toMiddle, toLast⟩
  | orElse _ _ ofOne ofOther => rw [orElse, passes, Bool.or_eq_true, ofOne, ofOther]; rfl
  | @repeated content _ ofContent =>
    rw [repeated, passes, ofContent]
    constructor
    · exact Relation.TransGen.single
    · intro rounds
      obtain ⟨middle, toMiddle, rest⟩ := Relation.TransGen.head'_iff.mp rounds
      obtain rfl := le_antisymm toMiddle.le (le_of_rounds rest)
      exact toMiddle

theorem leaves_iff {search : Search} {current : Cursor}
    (isCurrent : search.IsCurrent current.surroundings) :
    search.leaves = true ↔ search.Ends current current := by
  induction isCurrent with
  | empty => exact iff_of_false Bool.false_ne_true id
  | read set marked => exact (and_iff_left rfl).symm
  | condition kind => exact iff_of_false Bool.false_ne_true id
  | @followedBy first second _ secondCurrent ofFirst ofSecond =>
    rw [followedBy, leaves, Bool.or_eq_true, Bool.and_eq_true, ofFirst, ofSecond,
      passes_iff secondCurrent]
    constructor
    · rintro (secondEnds | ⟨firstEnds, secondPasses⟩)
      · exact .inr secondEnds
      · exact .inl ⟨current, firstEnds, secondPasses⟩
    · rintro (⟨middle, toMiddle, toLast⟩ | secondEnds)
      · obtain rfl := le_antisymm toMiddle.le toLast.le
        exact .inr ⟨toMiddle, toLast⟩
      · exact .inl secondEnds
  | orElse _ _ ofOne ofOther => rw [orElse, leaves, Bool.or_eq_true, ofOne, ofOther]; rfl
  | @repeated content _ ofContent =>
    rw [repeated, leaves, ofContent]
    constructor
    · exact fun ends => ⟨current, ends, .refl⟩
    · rintro ⟨middle, toMiddle, rounds⟩
      obtain rfl := le_antisymm toMiddle.le (le_of_rounds rounds)
      exact toMiddle

/-! ### A step of a search -/

theorem next_isCurrent (char : Char) (place : Surroundings) (search : Search) (entered : Bool) :
    (search.next char place entered).IsCurrent place := by
  induction search generalizing entered with
  | empty => exact .empty
  | read set marked => exact .read _ _
  | condition kind holds => exact .condition _
  | both _ _ first second ofFirst ofSecond => exact .followedBy (ofFirst _) (ofSecond _)
  | either _ _ one other ofOne ofOther => exact .orElse (ofOne _) (ofOther _)
  | loop _ _ content ofContent => exact .repeated (ofContent _)

theorem next_matches (char : Char) (place : Surroundings) (search : Search) (entered : Bool) :
    (search.next char place entered).Matches = search.Matches := by
  induction search generalizing entered with
  | empty | read set marked | condition kind holds => rfl
  | both _ _ first second ofFirst ofSecond =>
    rw [next, followedBy, Matches, Matches, ofFirst, ofSecond]
  | either _ _ one other ofOne ofOther => rw [next, orElse, Matches, Matches, ofOne, ofOther]
  | loop _ _ content ofContent => rw [next, repeated, Matches, Matches, ofContent]

/-- A match is under way from the current place if one has begun before, or begins there where
it may. -/
def Underway (entered : Bool) (search : Search) (current last : Cursor) : Prop :=
  search.Ends current last ∨ entered = true ∧ search.Matches current last

theorem Underway.le {entered : Bool} {search : Search} {current last : Cursor}
    (underway : search.Underway entered current last) : current ≤ last :=
  underway.elim Ends.le fun ⟨_, matched⟩ => matched.le

/-- With the next character, a search gets from one place to another: it keeps the matches that are
under way, and loses those that end where it was. -/
def Steps (char : Char) (place : Surroundings) (here behind : Cursor) (search : Search) : Prop :=
  ∀ entered last, (search.next char place entered).Ends behind last ↔
    search.Underway entered here last ∧ here ≠ last

section Steps

variable {char : Char} {place : Surroundings} {here behind : Cursor}

/-- The second of two expressions is entered where matches of the first one end. A match of both
either reads something in the first one or has just entered the second. -/
theorem followedBy_steps {first second : Search} (isCurrent : first.IsCurrent here.surroundings)
    (ofFirst : first.Steps char place here behind)
    (ofSecond : second.Steps char place here behind) :
    (first.followedBy second).Steps char place here behind := by
  intro entered last
  have entersSecond : (first.leaves || entered && first.passes) = true ↔
      first.Underway entered here here := by
    rw [Bool.or_eq_true, Bool.and_eq_true, leaves_iff isCurrent, passes_iff isCurrent]
    rfl
  have through {middle : Cursor} (underway : first.Underway entered here middle)
      (toLast : second.Matches middle last) (differ : here ≠ last) :
      (∃ middle, (first.Underway entered here middle ∧ here ≠ middle) ∧
        second.Matches middle last) ∨
      second.Underway (first.leaves || entered && first.passes) here last ∧ here ≠ last := by
    rcases eq_or_ne here middle with rfl | leadsOn
    · exact .inr ⟨.inr ⟨entersSecond.mpr underway, toLast⟩, differ⟩
    · exact .inl ⟨middle, ⟨underway, leadsOn⟩, toLast⟩
  simp only [followedBy, next, Ends, Relation.Comp, next_matches, ofFirst _ _, ofSecond _ _]
  constructor
  · rintro (⟨middle, ⟨underway, leadsOn⟩, toLast⟩ | ⟨ends | ⟨enters, matched⟩, differ⟩)
    · refine ⟨underway.imp (fun ends => .inl ⟨middle, ends, toLast⟩)
        (fun ⟨mayEnter, matched⟩ => ⟨mayEnter, middle, matched, toLast⟩), ?_⟩
      rintro rfl
      exact leadsOn (le_antisymm underway.le toLast.le)
    · exact ⟨.inl (.inr ends), differ⟩
    · exact ⟨(entersSecond.mp enters).imp (fun ends => .inl ⟨here, ends, matched⟩)
        (fun ⟨mayEnter, passes⟩ => ⟨mayEnter, here, passes, matched⟩), differ⟩
  · rintro ⟨(⟨middle, ends, toLast⟩ | ends) | ⟨mayEnter, middle, matched, toLast⟩, differ⟩
    · exact through (.inl ends) toLast differ
    · exact .inr ⟨.inl ends, differ⟩
    · exact through (.inr ⟨mayEnter, matched⟩) toLast differ

/-- A loop is entered again where a round ends. Rounds that read nothing can be left out. -/
theorem repeated_steps {content : Search} (isCurrent : content.IsCurrent here.surroundings)
    (ofContent : content.Steps char place here behind) :
    content.repeated.Steps char place here behind := by
  intro entered last
  have again := leaves_iff isCurrent
  have fromHere (enters : (entered || content.leaves) = true) (differ : here ≠ last)
      (rounds : Relation.ReflTransGen content.Matches here last) :
      ∃ middle, (content.Underway (entered || content.leaves) here middle ∧ here ≠ middle) ∧
        Relation.ReflTransGen content.Matches middle last := by
    obtain ⟨middle, matched, leadsOn, rest⟩ := exists_leadingOn differ rounds
    exact ⟨middle, ⟨.inr ⟨enters, matched⟩, leadsOn⟩, rest⟩
  simp only [repeated, next, Ends, Relation.Comp, next_matches, ofContent _ _]
  constructor
  · rintro ⟨middle, ⟨underway, leadsOn⟩, rounds⟩
    refine ⟨?_, ?_⟩
    · obtain ends | ⟨enters, matched⟩ := underway
      · exact .inl ⟨middle, ends, rounds⟩
      · rcases (Bool.or_eq_true _ _).mp enters with mayEnter | leaves
        · exact .inr ⟨mayEnter, .head' matched rounds⟩
        · exact .inl ⟨here, again.mp leaves, .head matched rounds⟩
    · rintro rfl
      exact leadsOn (le_antisymm underway.le (le_of_rounds rounds))
  · rintro ⟨⟨middle, ends, rounds⟩ | ⟨mayEnter, rounds⟩, differ⟩
    · rcases eq_or_ne here middle with rfl | leadsOn
      · exact fromHere (by rw [again.mpr ends, Bool.or_true]) differ rounds
      · exact ⟨middle, ⟨.inl ends, leadsOn⟩, rounds⟩
    · exact fromHere (by rw [mayEnter, Bool.true_or]) differ rounds.to_reflTransGen

end Steps

theorem read_steps (set : Ranges) (marked : Bool) (before rest : List Char) (char : Char)
    (place : Surroundings) :
    (read set marked).Steps char place ⟨before, char :: rest⟩ ⟨char :: before, rest⟩ := by
  intro entered last
  rw [next, Ends, Bool.and_eq_true]
  constructor
  · rintro ⟨⟨mayEnter, member⟩, rfl⟩
    refine ⟨.inr ⟨mayEnter, char, member, rfl, rfl⟩, ?_⟩
    intro same
    exact Cursor.not_le_of_cons (le_of_eq same.symm)
  · rintro ⟨⟨-, stays⟩ | ⟨mayEnter, read, member, reads⟩, differ⟩
    · exact absurd stays differ
    · obtain ⟨rfl, rfl⟩ := Cursor.reads_single_iff.mp reads
      exact ⟨⟨mayEnter, member⟩, rfl⟩

/-- A search that knows its place gets from there to the next one. -/
theorem steps_of_isCurrent {before rest : List Char} {char : Char} {search : Search}
    (place : Surroundings)
    (isCurrent : search.IsCurrent (⟨before, char :: rest⟩ : Cursor).surroundings) :
    search.Steps char place ⟨before, char :: rest⟩ ⟨char :: before, rest⟩ := by
  induction isCurrent with
  | empty =>
    refine fun entered last => iff_of_false id ?_
    rintro ⟨ends | ⟨-, stays⟩, differ⟩
    · exact ends
    · exact differ stays
  | read set marked => exact read_steps set marked before rest char place
  | condition kind =>
    refine fun entered last => iff_of_false id ?_
    rintro ⟨ends | ⟨-, -, stays⟩, differ⟩
    · exact ends
    · exact differ stays
  | followedBy firstCurrent _ ofFirst ofSecond =>
    exact followedBy_steps firstCurrent ofFirst ofSecond
  | orElse _ _ ofOne ofOther =>
    intro entered last
    simp only [orElse, next, Ends, Underway, Matches, ofOne _ _, ofOther _ _]
    tauto
  | repeated contentCurrent ofContent => exact repeated_steps contentCurrent ofContent

/-! ### A whole search -/

/-- A search finds the matches that are under way, and those that begin at the current place or
further on. -/
theorem finds_iff {before after : List Char} {search : Search}
    (isCurrent : search.IsCurrent (⟨before, after⟩ : Cursor).surroundings) :
    search.finds after = true ↔
      (∃ last, search.Ends ⟨before, after⟩ last) ∨
        ∃ first last, ⟨before, after⟩ ≤ first ∧ search.Matches first last := by
  induction after generalizing before search with
  | nil =>
    rw [finds, Bool.or_eq_true, passes_iff isCurrent, leaves_iff isCurrent, or_comm]
    constructor
    · exact Or.imp (fun ends => ⟨_, ends⟩) fun passes => ⟨_, _, le_rfl, passes⟩
    · rintro (⟨last, ends⟩ | ⟨first, last, behind, matched⟩)
      · obtain rfl := Cursor.eq_of_atEnd ends.le
        exact .inl ends
      · obtain rfl := Cursor.eq_of_atEnd behind
        obtain rfl := Cursor.eq_of_atEnd matched.le
        exact .inr matched
  | cons char rest inductionHypothesis =>
    rw [finds, Bool.or_eq_true, Bool.or_eq_true, passes_iff isCurrent, leaves_iff isCurrent,
      @inductionHypothesis (char :: before) _
        (next_isCurrent char ⟨some char, rest.head?⟩ search true), next_matches]
    simp only [steps_of_isCurrent _ isCurrent _ _]
    constructor
    · rintro ((passes | ends) | ⟨last, ends | ⟨-, matched⟩, -⟩ | ⟨first, last, behind, matched⟩)
      · exact .inr ⟨_, _, le_rfl, passes⟩
      · exact .inl ⟨_, ends⟩
      · exact .inl ⟨last, ends⟩
      · exact .inr ⟨_, last, le_rfl, matched⟩
      · exact .inr ⟨first, last, Cursor.le_iff_of_cons.mpr (.inr behind), matched⟩
    · -- What ends at the current place is an answer there; the rest is left to the next places.
      rintro (⟨last, ends⟩ | ⟨first, last, behind, matched⟩)
      · rcases eq_or_ne (⟨before, char :: rest⟩ : Cursor) last with rfl | leadsOn
        · exact .inl (.inr ends)
        · exact .inr (.inl ⟨last, .inl ends, leadsOn⟩)
      · rcases Cursor.le_iff_of_cons.mp behind with rfl | further
        · rcases eq_or_ne (⟨before, char :: rest⟩ : Cursor) last with rfl | leadsOn
          · exact .inl (.inl matched)
          · exact .inr (.inl ⟨last, .inr ⟨rfl, matched⟩, leadsOn⟩)
        · exact .inr (.inr ⟨first, last, further, matched⟩)

end Search

end ConsumerContract.Pattern
