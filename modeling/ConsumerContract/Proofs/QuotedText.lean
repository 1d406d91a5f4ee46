/-
This file says which texts can be quoted in a date pattern. Between quotes, with its own
quotes doubled, a text is rendered to itself for every moment, whatever it consists of. The
one exception is a text of nothing but quotes: with the ones around it these make pairs
only, so no quoted part is ever opened and one quote too many is rendered.

The reader does not find the opening quote where it was put. Where the text starts with
quotes, the opening one is read as the first of a pair, each pair is shifted by one, and
the last quote in front of other characters opens the quoted part.
-/

import ConsumerContract.Proofs.WrittenPatterns

namespace ConsumerContract.DatePattern

/-- Characters with every quote doubled. -/
def doubledQuotes (chars : List Char) : List Char :=
  chars.flatMap fun char => if char = '\'' then ['\'', '\''] else [char]

/-- A text between quotes, with its own quotes doubled. -/
def quoted (text : String) : String :=
  String.ofList ('\'' :: (doubledQuotes text.toList ++ ['\'']))

/-! ### Doubled quotes -/

theorem doubledQuotes_append (front chars : List Char) :
    doubledQuotes (front ++ chars) = doubledQuotes front ++ doubledQuotes chars :=
  List.flatMap_append

theorem doubledQuotes_cons {char : Char} (plain : char ≠ '\'') (chars : List Char) :
    doubledQuotes (char :: chars) = char :: doubledQuotes chars := by
  rw [doubledQuotes, List.flatMap_cons, if_neg plain]
  rfl

theorem doubledQuotes_quotes (count : Nat) :
    doubledQuotes (List.replicate count '\'') = List.replicate (2 * count) '\'' := by
  induction count with
  | zero => rfl
  | succ count inductionHypothesis =>
    rw [List.replicate_succ, Nat.mul_succ, List.replicate_succ, List.replicate_succ,
      ← inductionHypothesis]
    rfl

/-- Behind an opening quote, doubled quotes stand for the characters they were made from. -/
theorem quotes_doubledQuotes (chars : List Char) :
    Quotes (doubledQuotes chars ++ ['\'']) chars [] := by
  induction chars with
  | nil => exact .closed nofun
  | cons char rest inductionHypothesis =>
    by_cases quote : char = '\''
    · subst quote
      exact .doubled inductionHypothesis
    · rw [doubledQuotes_cons quote]
      exact .char quote inductionHypothesis

/-- Pairs of quotes in front of a pattern. -/
theorem Written.pairs {rest : List Char} {parts : List Part} (written : Written rest parts)
    (count : Nat) :
    Written (List.replicate (2 * count) '\'' ++ rest)
      (List.replicate count .doubledQuote ++ parts) := by
  induction count with
  | zero => exact written
  | succ count inductionHypothesis => exact .doubledQuote inductionHypothesis

/-! ### Parts of a quoted text -/

/-- Quotes in front of another character are read in pairs, and what follows them is quoted. -/
theorem written_quoted {char : Char} (plain : char ≠ '\'') (count : Nat) (rest : List Char) :
    Written ('\'' :: (doubledQuotes (List.replicate count '\'' ++ char :: rest) ++ ['\'']))
      (List.replicate count .doubledQuote ++ [.quoted (char :: rest)]) := by
  have opened : Written ('\'' :: (doubledQuotes (char :: rest) ++ ['\'']))
      [.quoted (char :: rest)] := by
    refine .quoted ?_ (quotes_doubledQuotes _) .nil
    rw [doubledQuotes_cons plain]
    exact fun same => plain (Option.some.inj same)
  have shifted : '\'' :: (doubledQuotes (List.replicate count '\'' ++ char :: rest) ++ ['\'']) =
      List.replicate (2 * count) '\'' ++ '\'' :: (doubledQuotes (char :: rest) ++ ['\'']) := by
    rw [doubledQuotes_append, doubledQuotes_quotes, List.append_assoc, ← List.cons_append,
      ← List.replicate_succ, List.replicate_succ', List.append_assoc]
    rfl
  rw [shifted]
  exact opened.pairs count

/-- Quotes alone are one pair more than they were. -/
theorem written_quoted_quotes (count : Nat) :
    Written ('\'' :: (doubledQuotes (List.replicate count '\'') ++ ['\'']))
      (List.replicate (count + 1) .doubledQuote) := by
  have pairs : '\'' :: (doubledQuotes (List.replicate count '\'') ++ ['\'']) =
      List.replicate (2 * (count + 1)) '\'' := by
    rw [doubledQuotes_quotes, ← List.replicate_succ', ← List.replicate_succ]
    rfl
  have written := Written.nil.pairs (count + 1)
  rw [List.append_nil, List.append_nil] at written
  rwa [pairs]

theorem pieces_doubledQuote (count : Nat) :
    (List.replicate count Part.doubledQuote).flatMap Part.pieces =
      (List.replicate count '\'').map .literal := by
  induction count with
  | zero => rfl
  | succ count inductionHypothesis =>
    rw [List.replicate_succ, List.flatMap_cons, inductionHypothesis]
    rfl

theorem render_literals (moment : Moment) (chars : List Char) :
    render moment (chars.map .literal) = String.ofList chars := by
  refine String.toList_inj.mp ?_
  rw [render, String.toList_join, String.toList_ofList]
  induction chars with
  | nil => rfl
  | cons char rest inductionHypothesis =>
    rw [List.map_cons, List.map_cons, List.flatMap_cons, inductionHypothesis, DatePiece.render,
      String.toList_singleton]
    rfl

/-- If a text is written by parts that stand for some characters, it is rendered to these. -/
theorem renderText_of_literals {items : DateItemReader} (reads : items.Reads) (moment : Moment)
    {text : List Char} {parts : List Part} {chars : List Char} (written : Written text parts)
    (literal : parts.flatMap Part.pieces = chars.map .literal) :
    renderText items moment (String.ofList text) = .ok (String.ofList chars) := by
  have read : ofText (String.ofList text) = .ok (chars.map .literal) := by
    rw [ofText, String.toList_ofList, written.read_eq, literal]
  rw [renderText_eq reads, read]
  exact congrArg Except.ok (render_literals moment chars)

/-- Quoting a text is an exact escape unless the text is made of quotes alone: the quoted text is
a pattern that is rendered to the text itself for every moment. -/
theorem renderText_quoted_iff (items : DateItemReader) (reads : items.Reads) (moment : Moment)
    (text : String) :
    renderText items moment (quoted text) = .ok text ↔ ∃ char ∈ text.toList, char ≠ '\'' := by
  obtain ⟨count, rest, split, maximal⟩ := exists_run '\'' text.toList
  cases rest with
  | nil =>
    rw [List.append_nil] at split
    have rendered := renderText_of_literals reads moment (written_quoted_quotes count)
      (pieces_doubledQuote (count + 1))
    rw [quoted, split, rendered]
    constructor
    · intro same
      have longer := congrArg (fun text : String => text.toList.length) (Except.ok.inj same)
      rw [String.toList_ofList, split, List.length_replicate, List.length_replicate] at longer
      exact absurd longer (Nat.succ_ne_self count)
    · rintro ⟨char, member, plain⟩
      exact absurd (List.eq_of_mem_replicate member) plain
  | cons char rest =>
    have plain : char ≠ '\'' := fun same => maximal (congrArg some same)
    have literal : (List.replicate count Part.doubledQuote ++
        [Part.quoted (char :: rest)]).flatMap Part.pieces = text.toList.map .literal := by
      rw [List.flatMap_append, pieces_doubledQuote, split, List.map_append,
        List.flatMap_singleton]
      rfl
    have rendered := renderText_of_literals reads moment (written_quoted plain count rest) literal
    rw [String.ofList_toList] at rendered
    rw [quoted, split, rendered]
    refine iff_of_true rfl ⟨char, ?_, plain⟩
    exact List.mem_append_right _ List.mem_cons_self

/-- Quotes at both ends, a percent sign and a letter that names no field. -/
theorem renderText_quoted_iff_of_ends :
    DateItemReader.Reads DateItem.read ∧ quoted "''%Q '" = "'''''%Q '''" ∧
      ∀ moment, renderText DateItem.read moment (quoted "''%Q '") = .ok "''%Q '" :=
  ⟨DateItem.reads_read, by decide, fun moment =>
    (renderText_quoted_iff DateItem.read DateItem.reads_read moment "''%Q '").mpr
      ⟨'%', by decide, by decide⟩⟩

end ConsumerContract.DatePattern
