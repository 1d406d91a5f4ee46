/-
This file proves that the pattern for a list of texts matches exactly these. The
reader of patterns takes one piece after the other; the state it reaches says what
has been read by what it matches, not by the expressions themselves, whose parts
know their places. An escaped character is always read as that character, so a text
is read as a branch that matches nothing else, a bar finishes the branch, and the two
conditions around the group leave only the whole text to match.
-/

import Mathlib.Tactic.FinCases
import ConsumerContract.Authoring.Matcher
import ConsumerContract.Encoding.Declarations
import ConsumerContract.Proofs.Compiled
import ConsumerContract.Proofs.FoundMatches
import ConsumerContract.Proofs.WellFormed

namespace ConsumerContract.Pattern

/-! ### Piece by piece -/

/-- With the next piece, the reader gets from one state to another. -/
def ReadsPiece (here behind : ReaderState × List Char) : Prop :=
  here.1.verbose = false ∧ readPiece here.1 here.2 = .ok behind ∧
    behind.2.length < here.2.length

theorem readPieces_of_reads {start : ReaderState × List Char} {final : ReaderState}
    (reads : Relation.ReflTransGen ReadsPiece start (final, [])) {steps : Nat}
    (enough : start.2.length ≤ steps) : readPieces steps start.1 start.2 = .ok final := by
  induction reads using Relation.ReflTransGen.head_induction_on generalizing steps with
  | refl =>
    cases steps with
    | zero => rfl
    | succ steps =>
      have nothing : skip final.verbose [] = [] := by
        unfold skip
        split <;> rfl
      rw [readPieces, nothing]
  | @head here behind step _ inductionHypothesis =>
    obtain ⟨⟨state, text⟩, notVerbose, read, shorter⟩ := here, step
    cases steps with
    | zero => omega
    | succ steps =>
      obtain ⟨char, rest, rfl⟩ := List.exists_cons_of_length_pos (Nat.zero_lt_of_lt shorter)
      have unskipped : skip state.verbose (char :: rest) = char :: rest := by
        rw [notVerbose]
        rfl
      rw [readPieces, unskipped]
      dsimp only
      rw [read]
      exact inductionHypothesis (by simp only [List.length_cons] at *; omega)

/-! ### What a written expression stands for -/

/-- A written expression of some height matches as a relation says. -/
def Tree.Denotes (height : Nat) (relation : Cursor → Cursor → Prop) (tree : Tree) : Prop :=
  (∃ regex, tree.meaning {} = .ok (regex, {}) ∧ regex.BoundsOrdered ∧ regex.Matches = relation) ∧
    ∀ room, height ≤ room → tree.checkNesting room = .ok ()

/-- The places where a text starts. -/
def AtStart (first last : Cursor) : Prop :=
  first.before = [] ∧ first = last

/-- The places where a text ends. -/
def AtEnd (first last : Cursor) : Prop :=
  first.after = [] ∧ first = last

namespace Tree

variable {height : Nat} {relation : Cursor → Cursor → Prop} {tree : Tree}
  {relations : List (Cursor → Cursor → Prop)} {trees : List Tree}

theorem Denotes.higher {least : Nat} (denotes : tree.Denotes least relation)
    (bound : least ≤ height) : tree.Denotes height relation :=
  ⟨denotes.1, fun room fits => denotes.2 room (Nat.le_trans bound fits)⟩

theorem empty_denotes (span : Span) : (Tree.empty span).Denotes 0 Eq :=
  ⟨⟨.empty, rfl, trivial, rfl⟩, fun _ _ => rfl⟩

theorem literal_denotes (char : Char) (span : Span) :
    (Tree.literal { char, isByte := false, span }).Denotes 0 (Cursor.Reads [char]) := by
  refine ⟨⟨.text [char], ?_, trivial, rfl⟩, fun _ _ => rfl⟩
  have same : ({} : Flags).literal { char, isByte := false, span } = .ok (.text [char]) :=
    congrArg Except.ok (if_pos rfl)
  rw [meaning, same]
  rfl

theorem lineStart_denotes (span : Span) : (Tree.assertion .lineStart span).Denotes 0 AtStart := by
  refine ⟨⟨.condition .textStart, rfl, trivial, ?_⟩, fun _ _ => rfl⟩
  ext first last
  exact and_congr_left fun _ => by simp [Condition.holds, Cursor.surroundings]

theorem lineEnd_denotes (span : Span) : (Tree.assertion .lineEnd span).Denotes 0 AtEnd := by
  refine ⟨⟨.condition .textEnd, rfl, trivial, ?_⟩, fun _ _ => rfl⟩
  ext first last
  exact and_congr_left fun _ => by simp [Condition.holds, Cursor.surroundings]

/-- Expressions that stand for relations have meanings one by one. -/
theorem denotes_all (each : List.Forall₂ (Denotes height) relations trees) :
    (∃ regexes, meaningOfAll {} trees = .ok (regexes, {}) ∧ Regex.AllBoundsOrdered regexes ∧
        regexes.map Regex.Matches = relations) ∧
      ∀ room, height ≤ room → checkAllNesting room trees = .ok () := by
  induction each with
  | nil => exact ⟨⟨[], rfl, trivial, rfl⟩, fun _ _ => rfl⟩
  | @cons relation tree relations trees denotes _ inductionHypothesis =>
    obtain ⟨⟨regex, means, ordered, rfl⟩, nested⟩ := denotes
    obtain ⟨⟨regexes, meanAll, allOrdered, rfl⟩, allNested⟩ := inductionHypothesis
    refine ⟨⟨regex :: regexes, ?_, ⟨ordered, allOrdered⟩, rfl⟩, fun room fits => ?_⟩
    · rw [meaningOfAll, means]
      dsimp only [bind, Except.bind]
      rw [meanAll]
    · rw [checkAllNesting, nested room fits]
      exact allNested room fits

theorem concatenation_denotes (each : List.Forall₂ (Denotes height) relations trees) (span : Span) :
    (Tree.concatenation trees span).Denotes (height + 1) (relations.foldr Relation.Comp Eq) := by
  obtain ⟨⟨regexes, means, ordered, rfl⟩, nested⟩ := denotes_all each
  refine ⟨⟨.concatenation regexes, ?_, ordered, Regex.matchesInOrder_eq_foldr regexes⟩, ?_⟩
  · rw [meaning, means]
    rfl
  · rintro (_ | room) fits
    · omega
    · exact nested room (Nat.le_of_succ_le_succ fits)

theorem alternation_denotes (each : List.Forall₂ (Denotes height) relations trees) (span : Span) :
    (Tree.alternation trees span).Denotes (height + 1)
      (relations.foldr (fun relation other first last => relation first last ∨ other first last)
        fun _ _ => False) := by
  obtain ⟨⟨regexes, means, ordered, rfl⟩, nested⟩ := denotes_all each
  refine ⟨⟨.alternation regexes, ?_, ordered, Regex.matchesAny_eq_foldr regexes⟩, ?_⟩
  · rw [meaning, means]
    rfl
  · rintro (_ | room) fits
    · omega
    · exact nested room (Nat.le_of_succ_le_succ fits)

theorem group_denotes (denotes : tree.Denotes height relation) (number : Nat) (span : Span) :
    (Tree.group (some number) [] tree span).Denotes (height + 1) relation := by
  obtain ⟨⟨regex, means, ordered, rfl⟩, nested⟩ := denotes
  refine ⟨⟨.group number regex, ?_, ordered, rfl⟩, ?_⟩
  · rw [meaning, Flags.apply, List.foldl_nil, means]
    rfl
  · rintro (_ | room) fits
    · omega
    · exact nested room (Nat.le_of_succ_le_succ fits)

end Tree

/-! ### Escaped characters -/

/-- A character that stands for itself in a pattern. -/
def escapedChar (char : Char) : List Char :=
  if isSpecial char then ['\\', char] else [char]

/-- Texts as further branches of a choice, each behind a bar. -/
def barredTexts (texts : List (List Char)) : List Char :=
  texts.flatMap fun chars => '|' :: chars.flatMap escapedChar

theorem toList_escaped (text : String) : (escaped text).toList = text.toList.flatMap escapedChar :=
  String.toList_ofList

/-- Special characters are none of those that begin an escape of another kind. -/
theorem special_escapes {char : Char} (special : isSpecial char = true) :
    char.isDigit = false ∧ char ∉ ['x', 'u', 'U'] ∧ char ∉ ['p', 'P'] := by
  rw [isSpecial, List.contains_iff_mem] at special
  fin_cases special <;> decide

theorem escape_special {char : Char} (special : isSpecial char = true) (rest : List Char) :
    escape false ('\\' :: char :: rest) =
      .ok (.literal { char, isByte := false, span := ⟨'\\' :: char :: rest, rest⟩ }, rest) := by
  obtain ⟨noDigit, noCode, noProperty⟩ := special_escapes special
  simp only [List.mem_cons, List.mem_nil_iff, or_false] at noCode noProperty
  rw [escape, List.drop_succ_cons, List.drop_zero]
  dsimp only
  rw [noDigit, if_neg Bool.false_ne_true, if_neg noCode, if_neg noProperty, special, Bool.true_or,
    if_pos rfl]

theorem readPiece_plain {char : Char} (plain : isSpecial char = false) (state : ReaderState)
    (rest : List Char) :
    readPiece state (char :: rest) =
      .ok (state.push (.literal (verbatim char (char :: rest) rest)), rest) := by
  rw [readPiece]
  all_goals
    rintro rfl
    exact absurd plain (by decide)

/-! ### Branches that stand for texts -/

namespace ReaderState

theorem branchUpTo_denotes {state : ReaderState} {relations : List (Cursor → Cursor → Prop)}
    (each : List.Forall₂ (Tree.Denotes 0) relations state.pieces.reverse) (stop : List Char) :
    (state.branchUpTo stop).Denotes 1 (relations.foldr Relation.Comp Eq) := by
  unfold branchUpTo
  split
  · next none =>
    rw [none] at each
    cases each
    exact (Tree.empty_denotes _).higher (Nat.zero_le 1)
  · next piece one =>
    rw [one] at each
    obtain @⟨⟩ | @⟨relation, _, _, _, denotes, ⟨⟩⟩ := each
    rw [List.foldr_cons, List.foldr_nil, Relation.comp_eq]
    exact denotes.higher (Nat.zero_le 1)
  · exact Tree.concatenation_denotes each _

theorem contentUpTo_denotes {state : ReaderState} {relations : List (Cursor → Cursor → Prop)}
    {stop : List Char} (each : List.Forall₂ (Tree.Denotes 1) relations
      (state.branchUpTo stop :: state.branches).reverse) :
    (state.contentUpTo stop).Denotes 2
      (relations.foldr (fun relation other first last => relation first last ∨ other first last)
        fun _ _ => False) := by
  unfold contentUpTo
  split
  · next none =>
    rw [List.isEmpty_iff.mp none] at each
    obtain @⟨⟩ | @⟨relation, _, _, _, denotes, ⟨⟩⟩ := each
    have alone : (fun first last => relation first last ∨ False) = relation :=
      funext₂ fun _ _ => or_false _
    rw [List.foldr_cons, List.foldr_nil, alone]
    exact denotes.higher (Nat.le_succ 1)
  · exact Tree.alternation_denotes each _

/-- Inside some groups, the reader has finished branches that stand for texts, and has read the
start of another. -/
structure ReadsTexts (outer : List OpenGroup) (finished : List (List Char)) (current : List Char)
    (state : ReaderState) : Prop where
  notVerbose : state.verbose = false
  groups : state.groups = outer
  branches : List.Forall₂ (Tree.Denotes 1) (finished.map Cursor.Reads) state.branches.reverse
  pieces : List.Forall₂ (Tree.Denotes 0) (current.map fun char => Cursor.Reads [char])
    state.pieces.reverse

section ReadsTexts

variable {outer : List OpenGroup} {finished : List (List Char)} {current : List Char}
  {state : ReaderState}

theorem ReadsTexts.branchUpTo_denotes (reads : state.ReadsTexts outer finished current)
    (stop : List Char) : (state.branchUpTo stop).Denotes 1 (Cursor.Reads current) := by
  rw [Cursor.reads_eq_foldr]
  exact ReaderState.branchUpTo_denotes reads.pieces stop

theorem ReadsTexts.allBranches (reads : state.ReadsTexts outer finished current)
    (stop : List Char) :
    List.Forall₂ (Tree.Denotes 1) ((finished ++ [current]).map Cursor.Reads)
      (state.branchUpTo stop :: state.branches).reverse := by
  rw [List.map_append, List.reverse_cons]
  exact List.rel_append reads.branches (.cons (reads.branchUpTo_denotes stop) .nil)

theorem ReadsTexts.push (reads : state.ReadsTexts outer finished current) (char : Char)
    (span : Span) : (state.push (.literal { char, isByte := false, span })).ReadsTexts outer
      finished (current ++ [char]) := by
  refine ⟨reads.notVerbose, reads.groups, reads.branches, ?_⟩
  rw [List.map_append, ReaderState.push, List.reverse_cons]
  exact List.rel_append reads.pieces (.cons (Tree.literal_denotes char span) .nil)

/-- An escaped character is one piece, which stands for the character. -/
theorem ReadsTexts.char (reads : state.ReadsTexts outer finished current) (char : Char)
    (rest : List Char) :
    ∃ next, ReadsPiece (state, escapedChar char ++ rest) (next, rest) ∧
      next.ReadsTexts outer finished (current ++ [char]) := by
  unfold escapedChar
  split
  · next special =>
    refine ⟨_, ⟨reads.notVerbose, ?_, ?_⟩, reads.push char ⟨'\\' :: char :: rest, rest⟩⟩
    · rw [List.cons_append, List.singleton_append, readPiece, reads.notVerbose,
        escape_special special]
      rfl
    · exact Nat.lt_add_of_pos_right Nat.two_pos
  · next plain =>
    refine ⟨_, ⟨reads.notVerbose, readPiece_plain (Bool.not_eq_true _ ▸ plain) state rest,
      Nat.lt_succ_self _⟩, reads.push char _⟩

/-- An escaped text is read up to its end, and stands for itself. -/
theorem ReadsTexts.chars (reads : state.ReadsTexts outer finished current) (chars : List Char)
    (rest : List Char) :
    ∃ next, Relation.ReflTransGen ReadsPiece (state, chars.flatMap escapedChar ++ rest)
        (next, rest) ∧ next.ReadsTexts outer finished (current ++ chars) := by
  induction chars generalizing state current with
  | nil => exact ⟨state, .refl, by rwa [List.append_nil]⟩
  | cons char chars inductionHypothesis =>
    rw [List.flatMap_cons, List.append_assoc]
    obtain ⟨next, piece, nextReads⟩ := reads.char char (chars.flatMap escapedChar ++ rest)
    obtain ⟨last, pieces, lastReads⟩ := inductionHypothesis nextReads
    rw [List.append_assoc, List.singleton_append] at lastReads
    exact ⟨last, .head piece pieces, lastReads⟩

/-- A bar finishes a branch. -/
theorem ReadsTexts.bar (reads : state.ReadsTexts outer finished current) (rest : List Char) :
    ∃ next, ReadsPiece (state, '|' :: rest) (next, rest) ∧
      next.ReadsTexts outer (finished ++ [current]) [] :=
  ⟨state.nextBranch ('|' :: rest), ⟨reads.notVerbose, rfl, Nat.lt_succ_self _⟩,
    ⟨reads.notVerbose, reads.groups, reads.allBranches _, .nil⟩⟩

/-- Further texts are read as branches of their own. -/
theorem ReadsTexts.texts (reads : state.ReadsTexts outer finished current)
    (texts : List (List Char)) (rest : List Char) :
    ∃ next, Relation.ReflTransGen ReadsPiece
        (state, barredTexts texts ++ rest) (next, rest) ∧
      next.verbose = false ∧ next.groups = outer ∧
      ∀ stop, List.Forall₂ (Tree.Denotes 1) ((finished ++ current :: texts).map Cursor.Reads)
        (next.branchUpTo stop :: next.branches).reverse := by
  induction texts generalizing state finished current with
  | nil => exact ⟨state, .refl, reads.notVerbose, reads.groups, reads.allBranches⟩
  | cons chars texts inductionHypothesis =>
    rw [barredTexts, List.flatMap_cons, List.append_assoc, List.cons_append]
    obtain ⟨opened, bar, openedReads⟩ :=
      reads.bar (chars.flatMap escapedChar ++ (barredTexts texts ++ rest))
    obtain ⟨next, pieces, nextReads⟩ := openedReads.chars chars (barredTexts texts ++ rest)
    rw [List.nil_append] at nextReads
    obtain ⟨last, more, notVerbose, groups, branches⟩ := inductionHypothesis nextReads
    rw [List.append_assoc, List.singleton_append] at branches
    exact ⟨last, .head bar (pieces.trans more), notVerbose, groups, branches⟩

end ReadsTexts

end ReaderState

/-! ### The pattern for some texts -/

/-- Some texts as the branches of a choice. -/
def alternatives (first : List Char) (rest : List (List Char)) (behind : List Char) : List Char :=
  first.flatMap escapedChar ++ (barredTexts rest ++ behind)

/-- The pattern for some texts. -/
def listedChars (first : List Char) (rest : List (List Char)) : List Char :=
  '^' :: '(' :: alternatives first rest [')', '$']

theorem intercalate_bars (first : List Char) (rest : List (List Char)) :
    ['|'].intercalate (first :: rest) = first ++ rest.flatMap ('|' :: ·) := by
  induction rest generalizing first with
  | nil => rw [List.intercalate_singleton, List.flatMap_nil, List.append_nil]
  | cons second rest inductionHypothesis =>
    rw [List.intercalate_cons_cons, inductionHypothesis second, List.flatMap_cons,
      List.append_assoc, List.singleton_append, List.cons_append]

theorem toList_oneOfPattern (first : String) (rest : List String) :
    (Matcher.oneOfPattern (first :: rest)).toList =
      listedChars first.toList (rest.map String.toList) := by
  have texts : ("|".intercalate ((first :: rest).map escaped)).toList =
      first.toList.flatMap escapedChar ++ barredTexts (rest.map String.toList) := by
    rw [String.toList_intercalate, List.map_cons, List.map_cons, toList_escaped, List.map_map]
    change ['|'].intercalate _ = _
    rw [intercalate_bars, barredTexts, List.flatMap_map, List.flatMap_map]
    simp only [Function.comp_apply, toList_escaped]
  rw [Matcher.oneOfPattern, String.toList_append, String.toList_append, texts, listedChars,
    alternatives]
  simp

/-- A parenthesis that no question mark follows opens a group that captures. -/
theorem openGroup_plain {state : ReaderState} (notVerbose : state.verbose = false)
    {inside : List Char} (plain : inside.head? ≠ some '?') :
    openGroup state ('(' :: inside) =
      .ok (state.enter true [] ⟨'(' :: inside, inside⟩ inside, inside) := by
  have advanced : advance state.verbose ('(' :: inside) = inside := by
    rw [notVerbose]
    rfl
  have unmarked (marks : List Char) : ('?' :: marks).isPrefixOf inside = false := by
    cases inside with
    | nil => rfl
    | cons char rest =>
      have differs : ('?' == char) = false := beq_false_of_ne fun same => plain (same ▸ rfl)
      rw [List.isPrefixOf_cons_cons, differs, Bool.false_and]
  rw [openGroup, advanced]
  simp only [unmarked, Bool.or_self, if_neg Bool.false_ne_true]
  cases inside with
  | nil => rfl
  | cons char rest =>
    have noMark : char ≠ '?' := fun same => plain (congrArg some same)
    simp [noMark]

theorem head?_alternatives (first : List Char) (rest : List (List Char)) {behind : List Char}
    (plain : behind.head? ≠ some '?') : (alternatives first rest behind).head? ≠ some '?' := by
  cases first with
  | nil =>
    cases rest with
    | nil => exact plain
    | cons chars rest => exact (by decide : some '|' ≠ some '?')
  | cons char chars =>
    rw [alternatives, List.flatMap_cons]
    unfold escapedChar
    split
    · exact (by decide : some '\\' ≠ some '?')
    · next plain =>
      intro same
      obtain rfl : char = '?' := Option.some.inj same
      exact plain (by decide)

/-- The group of a pattern, behind the condition that the text starts. -/
def choiceGroup (choice : List Char) : OpenGroup where
  pieces := [.assertion .lineStart ⟨'^' :: '(' :: choice, '(' :: choice⟩]
  branches := []
  branch := '^' :: '(' :: choice
  start := '^' :: '(' :: choice
  number := some 1
  setting := []
  span := ⟨'(' :: choice, choice⟩
  verbose := false

/-- The state in the group of a pattern. -/
def choiceOpened (choice : List Char) : ReaderState where
  pieces := []
  branches := []
  branch := choice
  start := choice
  groups := [choiceGroup choice]
  names := []
  groupCount := 1
  verbose := false

theorem choiceOpened_readsTexts (choice : List Char) :
    (choiceOpened choice).ReadsTexts [choiceGroup choice] [] [] :=
  ⟨rfl, rfl, .nil, .nil⟩

theorem reads_choiceOpened {choice : List Char} (plain : choice.head? ≠ some '?') :
    Relation.ReflTransGen ReadsPiece (.initial ('^' :: '(' :: choice), '^' :: '(' :: choice)
      (choiceOpened choice, choice) :=
  .head ⟨rfl, rfl, Nat.lt_succ_self _⟩
    (.single ⟨rfl, openGroup_plain rfl plain, Nat.lt_succ_self _⟩)

theorem foldr_reads (texts : List (List Char)) :
    (texts.map Cursor.Reads).foldr
        (fun relation other first last => relation first last ∨ other first last)
        (fun _ _ => False) =
      fun first last => ∃ chars ∈ texts, Cursor.Reads chars first last := by
  induction texts with
  | nil => simp
  | cons chars texts inductionHypothesis =>
    rw [List.map_cons, List.foldr_cons, inductionHypothesis]
    simp only [List.exists_mem_cons_iff]

/-- In a group, some texts are read as one choice between them. -/
theorem reads_alternatives {state : ReaderState} {outer : List OpenGroup}
    (reads : state.ReadsTexts outer [] []) (first : List Char) (rest : List (List Char))
    (behind : List Char) :
    ∃ filled, Relation.ReflTransGen ReadsPiece (state, alternatives first rest behind)
        (filled, behind) ∧
      filled.verbose = false ∧ filled.groups = outer ∧
      ∀ stop, (filled.contentUpTo stop).Denotes 2 fun start stop =>
        ∃ chars ∈ first :: rest, Cursor.Reads chars start stop := by
  obtain ⟨branch, firstRead, branchReads⟩ := reads.chars first (barredTexts rest ++ behind)
  obtain ⟨filled, restRead, notVerbose, groups, branches⟩ := branchReads.texts rest behind
  refine ⟨filled, firstRead.trans restRead, notVerbose, groups, fun stop => ?_⟩
  have denotes := ReaderState.contentUpTo_denotes (branches stop)
  rwa [List.nil_append, foldr_reads] at denotes

/-- A closing parenthesis makes a piece of the group. -/
theorem readsPiece_close {state : ReaderState} {group : OpenGroup} {outer : List OpenGroup}
    (notVerbose : state.verbose = false) (groups : state.groups = group :: outer)
    (rest : List Char) :
    ∃ closed, ReadsPiece (state, ')' :: rest) (closed, rest) ∧
      closed.verbose = group.verbose ∧ closed.groups = outer ∧ closed.branches = group.branches ∧
      closed.pieces = .group group.number group.setting (state.contentUpTo (')' :: rest))
        ⟨group.span.first, rest⟩ :: group.pieces := by
  refine ⟨{ state with
      pieces := _ :: group.pieces
      branches := group.branches
      branch := group.branch
      start := group.start
      groups := outer
      verbose := group.verbose },
    ⟨notVerbose, ?_, Nat.lt_succ_self rest.length⟩, rfl, rfl, rfl, rfl⟩
  rw [readPiece, ReaderState.leave?, groups]
  rfl

/-- The pattern for some texts is read as one choice between them, from start to end. -/
theorem ofText_listedChars (first : List Char) (rest : List (List Char)) :
    ∃ tree, Tree.ofText (listedChars first rest) = .ok tree ∧
      tree.Denotes 4 ([AtStart, fun start stop => ∃ chars ∈ first :: rest,
        Cursor.Reads chars start stop, AtEnd].foldr Relation.Comp Eq) := by
  have unmarked := head?_alternatives first rest (by decide : [')', '$'].head? ≠ some '?')
  obtain ⟨filled, choiceRead, notVerbose, groups, denotes⟩ :=
    reads_alternatives (choiceOpened_readsTexts _) first rest [')', '$']
  obtain ⟨closed, close, closedPlain, noGroup, noBranch, pieces⟩ :=
    readsPiece_close notVerbose groups ['$']
  have ends : ReadsPiece (closed, ['$']) (closed.push (.assertion .lineEnd ⟨['$'], []⟩), []) :=
    ⟨closedPlain, rfl, Nat.zero_lt_one⟩
  have read := readPieces_of_reads ((reads_choiceOpened unmarked).trans
    (choiceRead.trans (.head close (.single ends)))) (Nat.le_succ _)
  refine ⟨(closed.push (.assertion .lineEnd ⟨['$'], []⟩)).contentUpTo [], ?_, ?_⟩
  · rw [Tree.ofText, listedChars]
    dsimp only at read
    rw [read]
    dsimp only [bind, Except.bind]
    rw [ReaderState.push, noGroup]
  · have alone : (closed.push (.assertion .lineEnd ⟨['$'], []⟩)).branches.isEmpty = true := by
      rw [ReaderState.push, noBranch]
      rfl
    rw [ReaderState.contentUpTo, if_pos alone, ReaderState.branchUpTo, ReaderState.push, pieces]
    exact Tree.concatenation_denotes
      (.cons ((Tree.lineStart_denotes _).higher (Nat.zero_le 3)) <|
        .cons (Tree.group_denotes (denotes _) 1 _) <|
          .cons ((Tree.lineEnd_denotes _).higher (Nat.zero_le 3)) .nil) _

/-! ### What the pattern matches -/

/-- Between the start and the end of a text, only the whole of it can be read. -/
theorem exists_whole_iff {texts : List (List Char)} {text : List Char} :
    (∃ first last : Cursor, ⟨[], text⟩ ≤ first ∧
        [AtStart, fun start stop => ∃ chars ∈ texts, Cursor.Reads chars start stop, AtEnd].foldr
          Relation.Comp Eq first last) ↔ text ∈ texts := by
  constructor
  · rintro ⟨first, last, ⟨passed, after, before⟩, _, ⟨atStart, rfl⟩, stop,
      ⟨chars, member, reads⟩, _, ⟨atEnd, -⟩, -⟩
    have whole : passed.reverse = [] := (List.append_eq_nil_iff.mp (before.symm.trans atStart)).1
    rw [List.reverse_eq_nil_iff.mp whole, List.nil_append, reads.1, atEnd, List.append_nil] at after
    obtain rfl : text = chars := after
    exact member
  · intro member
    have reads : Cursor.Reads text ⟨[], text⟩ ⟨text.reverse, []⟩ :=
      ⟨(List.append_nil text).symm, (List.append_nil text.reverse).symm⟩
    exact ⟨⟨[], text⟩, ⟨text.reverse, []⟩, le_rfl, _, ⟨rfl, rfl⟩, _, ⟨text, member, reads⟩, _,
      ⟨rfl, rfl⟩, rfl⟩

/-- The pattern for some texts is well formed, and finds a match in exactly these. -/
theorem regexOf_oneOfPattern (first : String) (rest : List String) :
    ∃ regex, regexOf (Matcher.oneOfPattern (first :: rest)) = .ok regex ∧
      ∀ text : String, regex.matchesIn text.toList = true ↔ text ∈ first :: rest := by
  obtain ⟨tree, read, ⟨regex, means, ordered, relation⟩, nested⟩ :=
    ofText_listedChars first.toList (rest.map String.toList)
  refine ⟨regex, ?_, fun text => ?_⟩
  · rw [regexOf, toList_oneOfPattern, read]
    dsimp only [bind, Except.bind]
    rw [nested nestingLimit (by decide)]
    dsimp only
    rw [means]
  · rw [Regex.matchesIn_iff ordered, relation, exists_whole_iff, ← List.map_cons,
      List.mem_map_of_injective fun _ _ => String.toList_injective]

end ConsumerContract.Pattern

namespace ConsumerContract.Matcher

theorem compile_oneOfPattern {first : String} {rest : List String}
    (searchable : Pattern.compile (oneOfPattern (first :: rest)) ≠ .error .tooLarge) :
    ∃ pattern, Pattern.compile (oneOfPattern (first :: rest)) = .ok pattern ∧
      ∀ text, pattern.matchesIn text = true ↔ text ∈ first :: rest := by
  obtain ⟨regex, read, found⟩ := Pattern.regexOf_oneOfPattern first rest
  refine ⟨⟨oneOfPattern (first :: rest), regex⟩, ?_, found⟩
  rw [Pattern.compile, read] at searchable ⊢
  dsimp only at searchable ⊢
  split
  · rfl
  · next large => exact absurd (if_neg large) searchable

/-- Where its pattern is not too large to search with, the choice between some texts is encoded as
the first of them under one rule, whose pattern matches exactly these texts. -/
theorem encode_oneOf {first : String} {rest : List String}
    (searchable : Pattern.compile (oneOfPattern (first :: rest)) ≠ .error .tooLarge) :
    (∃ pattern, Pattern.compile (oneOfPattern (first :: rest)) = .ok pattern ∧
        ∀ text, pattern.matchesIn text = true ↔ text ∈ first :: rest) ∧
      ∀ element maxDepth, (oneOf (first :: rest)).encode element maxDepth =
        let rules : RuleSet := ⟨[.regex (oneOfPattern (first :: rest))], none⟩
        if maxDepth = 0 then
          .error ⟨.depthExceeded 0, (Node.string first).describe, element.root⟩
        else .ok {
          element
          value := .string first
          rules := some (if element = .body then .byPath [("$", rules)] else .bare rules)
          generators := none } := by
  have compiles := compile_oneOfPattern searchable
  refine ⟨compiles, fun element maxDepth => ?_⟩
  obtain ⟨pattern, compiled, found⟩ := compiles
  have fits : Rule.checkAll (.string first) element.root
      [.regex (oneOfPattern (first :: rest))] = .ok () := by
    refine Rule.checkAll_eq_ok.mpr fun rule member => ?_
    obtain rfl := List.mem_singleton.mp member
    exact ⟨.string first, rfl, pattern, compiled, (found first).mpr List.mem_cons_self⟩
  have compiles : (oneOf (first :: rest)).compile element element.root false maxDepth =
      Node.compileAt maxDepth element element.root false 1 (.string first) >>=
        fun inner => .ok (inner.withRules element.root
          ⟨[.regex (oneOfPattern (first :: rest))], none⟩) := by
    refine (Node.compileAt_matcher (Nat.zero_le maxDepth) _ _ _).trans ?_
    rw [fits]
    rfl
  rw [Node.encode, compiles]
  cases maxDepth with
  | zero => rw [Node.compileAt_of_lt Nat.zero_lt_one]; rfl
  | succ maxDepth =>
    rw [Node.string, Node.compileAt_scalar (Nat.succ_le_succ (Nat.zero_le maxDepth))]
    cases element <;> rfl

/-- A choice between texts with special characters, with a line break, and with nothing at all. -/
theorem encode_oneOf_of_symbols :
    Pattern.compile (oneOfPattern ["a.b|c", "", "(é)\n\"?"]) ≠ .error .tooLarge ∧
      (∃ pattern, Pattern.compile (oneOfPattern ["a.b|c", "", "(é)\n\"?"]) = .ok pattern ∧
        ∀ text, pattern.matchesIn text = true ↔ text ∈ ["a.b|c", "", "(é)\n\"?"]) ∧
      (oneOf ["a.b|c", "", "(é)\n\"?"]).encode .header 1 = .ok {
        element := .header
        value := .string "a.b|c"
        rules := some (.bare ⟨[.regex "^(a\\.b\\|c||\\(é\\)\n\"\\?)$"], none⟩)
        generators := none } := by
  have accepted : (match Pattern.compile (oneOfPattern ["a.b|c", "", "(é)\n\"?"]) with
      | .error .tooLarge => false
      | _ => true) = true := by
    decide +kernel
  have searchable : Pattern.compile (oneOfPattern ["a.b|c", "", "(é)\n\"?"]) ≠
      .error .tooLarge := by
    intro large
    rw [large] at accepted
    cases accepted
  obtain ⟨compiles, encodes⟩ := encode_oneOf searchable
  have written : oneOfPattern ["a.b|c", "", "(é)\n\"?"] =
      "^(a\\.b\\|c||\\(é\\)\n\"\\?)$" := by
    decide +kernel
  refine ⟨searchable, compiles, (encodes .header 1).trans ?_⟩
  rw [written]
  rfl

end ConsumerContract.Matcher
