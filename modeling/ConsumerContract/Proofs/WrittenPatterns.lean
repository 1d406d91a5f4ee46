/-
This file says which texts are date patterns. A text is cut from the left into
parts: two quotes for one, a quoted text, a character that stands for itself, or a
run of one letter that is as long as it can be. The reader of patterns goes
character by character and keeps what it is inside of; that comes to the same,
because a quote that is met inside a quoted text closes it unless a second one
follows, and a run ends where its letter does.

What is read can always be rendered. The directives of a pattern are written one
behind the other, and a reader of directives finds their items again, since each
directive says where it ends and a percent sign is never written alone.
-/

import ConsumerContract.Calendar.DateItem
import Mathlib.Data.List.Induction

namespace ConsumerContract

namespace DatePattern

/-! ### Parts of a text -/

/-- A part of a text that is a pattern. -/
inductive Part where
  | doubledQuote
  | quoted (content : List Char)
  | literal (char : Char)
  | run (letter : Char) (length : Nat)
  deriving DecidableEq, Repr

/-- The letters that name fields. -/
def fieldLetters : List Char :=
  ['y', 'M', 'L', 'd', 'D', 'E', 'a', 'H', 'h', 'm', 's', 'S', 'Z', 'X', 'x', 'z']

/-- The text behind an opening quote is this content, the closing quote and the rest. Two quotes
belong to the content, so the closing one is the first that no second one follows. -/
inductive Quotes : List Char → List Char → List Char → Prop where
  | closed {rest : List Char} (single : rest.head? ≠ some '\'') : Quotes ('\'' :: rest) [] rest
  | char {char : Char} {text content rest : List Char} (plain : char ≠ '\'')
      (inside : Quotes text content rest) : Quotes (char :: text) (char :: content) rest
  | doubled {text content rest : List Char} (inside : Quotes text content rest) :
      Quotes ('\'' :: '\'' :: text) ('\'' :: content) rest

/-- The text is these parts, one behind the other. -/
inductive Written : List Char → List Part → Prop where
  | nil : Written [] []
  | doubledQuote {rest : List Char} {parts : List Part} (behind : Written rest parts) :
      Written ('\'' :: '\'' :: rest) (.doubledQuote :: parts)
  | quoted {text content rest : List Char} {parts : List Part} (single : text.head? ≠ some '\'')
      (inside : Quotes text content rest) (behind : Written rest parts) :
      Written ('\'' :: text) (.quoted content :: parts)
  | literal {char : Char} {rest : List Char} {parts : List Part} (plain : char ≠ '\'')
      (noLetter : isPatternLetter char = false) (behind : Written rest parts) :
      Written (char :: rest) (.literal char :: parts)
  | run {letter : Char} {length : Nat} {rest : List Char} {parts : List Part}
      (known : letter ∈ fieldLetters) (maximal : rest.head? ≠ some letter)
      (behind : Written rest parts) :
      Written (List.replicate (length + 1) letter ++ rest) (.run letter (length + 1) :: parts)

/-- What a part stands for. -/
def Part.pieces : Part → DatePattern
  | doubledQuote => [.literal '\'']
  | quoted content => content.map .literal
  | literal char => [.literal char]
  | run letter length => ((DateField.ofRun? letter length).map .field).toList

theorem isSome_ofRun? {letter : Char} (length : Nat) :
    (DateField.ofRun? letter length).isSome = true ↔ letter ∈ fieldLetters := by
  unfold DateField.ofRun?
  split <;> simp_all [fieldLetters]

theorem isPatternLetter_of_mem {letter : Char} (known : letter ∈ fieldLetters) :
    isPatternLetter letter = true := by
  have all : fieldLetters.all isPatternLetter = true := by decide
  exact List.all_eq_true.mp all letter known

/-! ### One call of the reader -/

section Equations

variable {mode : Mode} {letter char : Char} {length : Nat} {rest : List Char}

theorem read_plain_doubled (rest : List Char) :
    read .plain ('\'' :: '\'' :: rest) = (read .plain rest).map (.literal '\'' :: ·) :=
  rfl

theorem read_quoted_doubled (rest : List Char) :
    read .quoted ('\'' :: '\'' :: rest) = (read .quoted rest).map (.literal '\'' :: ·) :=
  rfl

theorem read_plain_quote (single : rest.head? ≠ some '\'') :
    read .plain ('\'' :: rest) = read .quoted rest := by
  rw [read]
  · rfl
  · rintro other rfl
    exact single rfl
  · nofun

theorem read_quoted_quote (single : rest.head? ≠ some '\'') :
    read .quoted ('\'' :: rest) = read .plain rest := by
  rw [read]
  rintro other rfl
  exact single rfl

theorem read_quoted_char (plain : char ≠ '\'') (rest : List Char) :
    read .quoted (char :: rest) = (read .quoted rest).map (.literal char :: ·) := by
  rw [read]
  · exact fun other same _ => plain same
  · exact plain

theorem read_literal (plain : char ≠ '\'') (noLetter : isPatternLetter char = false)
    (rest : List Char) :
    read .plain (char :: rest) = (read .plain rest).map (.literal char :: ·) := by
  rw [read, if_neg (Bool.not_eq_true _ ▸ noLetter)]
  · rfl
  · exact fun other same _ => plain same
  · exact plain
  · nofun
  · nofun

theorem ne_quote_of_isPatternLetter (isLetter : isPatternLetter letter = true) :
    letter ≠ '\'' := by
  rintro rfl
  exact absurd isLetter (by decide)

theorem read_letter (isLetter : isPatternLetter letter = true) (rest : List Char) :
    read .plain (letter :: rest) = read (.run letter 1) rest := by
  have plain := ne_quote_of_isPatternLetter isLetter
  rw [read, if_pos isLetter]
  · exact fun other same _ => plain same
  · exact plain
  · nofun
  · nofun

theorem read_run_same (isLetter : isPatternLetter letter = true) (length : Nat)
    (rest : List Char) :
    read (.run letter length) (letter :: rest) = read (.run letter (length + 1)) rest := by
  have plain := ne_quote_of_isPatternLetter isLetter
  rw [read, if_pos isLetter, if_pos rfl]
  · exact fun other same _ => plain same
  · exact plain

/-- Where a run can not go on it is closed, and reading goes on as outside of it. -/
theorem read_run_end (length : Nat)
    (maximal : rest.head? ≠ some letter) :
    read (.run letter length) rest = closeRun (.run letter length) (read .plain rest) := by
  cases rest with
  | nil => rfl
  | cons char rest =>
    have different : letter ≠ char := fun same => maximal (congrArg some same.symm)
    by_cases quote : char = '\''
    · subst quote
      cases rest with
      | nil => rfl
      | cons second rest =>
        by_cases doubled : second = '\''
        · subst doubled
          rfl
        · have single : (second :: rest).head? ≠ some '\'' := fun same =>
            doubled (Option.some.inj same)
          rw [read_plain_quote single, read]
          · rintro other same
            exact doubled (List.cons.inj same).1
          · nofun
    · by_cases charIsLetter : isPatternLetter char = true
      · rw [read_letter charIsLetter, read, if_pos charIsLetter, if_neg different]
        · exact fun other same _ => quote same
        · exact quote
      · rw [read_literal quote (Bool.not_eq_true _ ▸ charIsLetter), read,
          if_neg charIsLetter]
        · exact fun other same _ => quote same
        · exact quote

end Equations

/-! ### Parts of what is read -/

theorem read_quotes {text content rest : List Char} (quotes : Quotes text content rest) :
    read .quoted text = (read .plain rest).map (content.map .literal ++ ·) := by
  induction quotes with
  | closed single =>
    rw [read_quoted_quote single]
    cases read .plain _ <;> rfl
  | char plain inside inductionHypothesis =>
    rw [read_quoted_char plain, inductionHypothesis]
    cases read .plain _ <;> rfl
  | doubled inside inductionHypothesis =>
    rw [read_quoted_doubled, inductionHypothesis]
    cases read .plain _ <;> rfl

theorem read_run {letter : Char} {rest : List Char} (isLetter : isPatternLetter letter = true)
    (maximal : rest.head? ≠ some letter) (length more : Nat) :
    read (.run letter length) (List.replicate more letter ++ rest) =
      closeRun (.run letter (length + more)) (read .plain rest) := by
  induction more generalizing length with
  | zero => exact read_run_end length maximal
  | succ more inductionHypothesis =>
    rw [List.replicate_succ, List.cons_append, read_run_same isLetter, inductionHypothesis,
      Nat.add_right_comm, Nat.add_assoc]

/-- A text that starts with a letter is read as a run of this letter and the rest. -/
theorem read_letters {letter : Char} {rest : List Char} (isLetter : isPatternLetter letter = true)
    (maximal : rest.head? ≠ some letter) (length : Nat) :
    read .plain (List.replicate (length + 1) letter ++ rest) =
      closeRun (.run letter (length + 1)) (read .plain rest) := by
  rw [List.replicate_succ, List.cons_append, read_letter isLetter, read_run isLetter maximal,
    Nat.add_comm]

/-- A text of parts is read as what the parts stand for. -/
theorem Written.read_eq {text : List Char} {parts : List Part} (written : Written text parts) :
    read .plain text = .ok (parts.flatMap Part.pieces) := by
  induction written with
  | nil => rfl
  | doubledQuote behind inductionHypothesis =>
    rw [read_plain_doubled, inductionHypothesis]
    rfl
  | quoted single inside behind inductionHypothesis =>
    rw [read_plain_quote single, read_quotes inside, inductionHypothesis]
    rfl
  | literal plain noLetter behind inductionHypothesis =>
    rw [read_literal plain noLetter, inductionHypothesis]
    rfl
  | @run letter length rest parts known maximal behind inductionHypothesis =>
    obtain ⟨kind, found⟩ := Option.isSome_iff_exists.mp ((isSome_ofRun? (length + 1)).mpr known)
    rw [read_letters (isPatternLetter_of_mem known) maximal, inductionHypothesis, closeRun, found,
      List.flatMap_cons, Part.pieces, found]
    rfl

theorem map_eq_ok {ε α β : Type} {outcome : Except ε α} {change : α → β} {result : β} :
    outcome.map change = .ok result ↔ ∃ value, outcome = .ok value ∧ change value = result := by
  cases outcome <;> simp [Except.map]

/-- A quoted text that is read has a closing quote. -/
theorem exists_quotes {text : List Char} {pattern : DatePattern}
    (success : read .quoted text = .ok pattern) :
    ∃ content rest, Quotes text content rest ∧ rest.length < text.length := by
  induction text using List.twoStepInduction generalizing pattern with
  | nil => cases success
  | singleton char =>
    by_cases quote : char = '\''
    · subst quote
      exact ⟨[], [], .closed nofun, Nat.zero_lt_one⟩
    · rw [read_quoted_char quote, map_eq_ok] at success
      obtain ⟨behind, success, -⟩ := success
      cases success
  | cons_cons char second rest inRest inTail =>
    by_cases quote : char = '\''
    · subst quote
      by_cases doubled : second = '\''
      · subst doubled
        rw [read_quoted_doubled, map_eq_ok] at success
        obtain ⟨behind, success, -⟩ := success
        obtain ⟨content, others, inside, shorter⟩ := inRest success
        exact ⟨_, others, .doubled inside, Nat.lt_add_right 2 shorter⟩
      · exact ⟨[], second :: rest, .closed fun same => doubled (Option.some.inj same),
          Nat.lt_succ_self _⟩
    · rw [read_quoted_char quote, map_eq_ok] at success
      obtain ⟨behind, success, -⟩ := success
      obtain ⟨content, others, inside, shorter⟩ := inTail second success
      exact ⟨_, others, .char quote inside, Nat.lt_succ_of_lt shorter⟩

/-- Every text starts with a run of a letter, which may be empty. -/
theorem exists_run (letter : Char) (text : List Char) :
    ∃ length rest, text = List.replicate length letter ++ rest ∧ rest.head? ≠ some letter := by
  induction text with
  | nil => exact ⟨0, [], rfl, nofun⟩
  | cons char rest inductionHypothesis =>
    by_cases same : char = letter
    · obtain ⟨length, behind, split, maximal⟩ := inductionHypothesis
      exact ⟨length + 1, behind, by rw [same, split]; rfl, maximal⟩
    · exact ⟨0, char :: rest, rfl, fun found => same (Option.some.inj found)⟩

theorem closeRun_eq_ok {letter : Char} {length : Nat} {rest : Except DatePatternFault DatePattern}
    {pattern : DatePattern} (success : closeRun (.run letter length) rest = .ok pattern) :
    letter ∈ fieldLetters ∧ ∃ behind, rest = .ok behind := by
  rw [closeRun] at success
  cases found : DateField.ofRun? letter length with
  | none =>
    rw [found] at success
    cases success
  | some kind =>
    rw [found] at success
    obtain ⟨behind, success, -⟩ := map_eq_ok.mp success
    exact ⟨(isSome_ofRun? length).mp (Option.isSome_of_eq_some found), behind, success⟩

/-- Whatever is read is a text of parts. -/
theorem exists_written {text : List Char} {pattern : DatePattern}
    (success : read .plain text = .ok pattern) : ∃ parts, Written text parts := by
  induction length : text.length using Nat.strongRecOn generalizing text pattern with
  | ind bound shorter =>
    subst length
    cases text with
    | nil => exact ⟨[], .nil⟩
    | cons char rest =>
      by_cases quote : char = '\''
      · subst quote
        by_cases single : rest.head? = some '\''
        · obtain ⟨rest, rfl⟩ := List.head?_eq_some_iff.mp single
          rw [read_plain_doubled, map_eq_ok] at success
          obtain ⟨behind, success, -⟩ := success
          obtain ⟨parts, written⟩ := shorter rest.length (Nat.lt_add_right 1 (Nat.lt_succ_self _))
            success rfl
          exact ⟨_, .doubledQuote written⟩
        · rw [read_plain_quote single] at success
          obtain ⟨content, behind, inside, less⟩ := exists_quotes success
          rw [read_quotes inside, map_eq_ok] at success
          obtain ⟨others, success, -⟩ := success
          obtain ⟨parts, written⟩ := shorter behind.length (Nat.lt_succ_of_lt less) success rfl
          exact ⟨_, .quoted single inside written⟩
      · cases isLetter : isPatternLetter char with
        | false =>
          rw [read_literal quote isLetter, map_eq_ok] at success
          obtain ⟨behind, success, -⟩ := success
          obtain ⟨parts, written⟩ := shorter rest.length (Nat.lt_succ_self _) success rfl
          exact ⟨_, .literal quote isLetter written⟩
        | true =>
          obtain ⟨count, behind, rfl, maximal⟩ := exists_run char rest
          rw [← List.cons_append, ← List.replicate_succ] at success ⊢
          rw [read_letters isLetter maximal] at success
          obtain ⟨known, others, success⟩ := closeRun_eq_ok success
          obtain ⟨parts, written⟩ := shorter behind.length (by
            rw [List.length_cons, List.length_append]
            omega) success rfl
          exact ⟨_, .run known maximal written⟩

/-- The texts that are patterns are those that can be cut into parts. -/
theorem ofText_ok_iff {text : String} :
    (∃ pattern, ofText text = .ok pattern) ↔ ∃ parts, Written text.toList parts := by
  constructor
  · rintro ⟨pattern, success⟩
    exact exists_written success
  · rintro ⟨parts, written⟩
    exact ⟨_, written.read_eq⟩

end DatePattern

/-! ### Items of directives -/

/-- What a reader of percent directives is relied on for: it goes from left to right, knows the
directives of all fields, takes two percent signs for one, and leaves other characters alone. -/
structure DateItemReader.Reads (items : DateItemReader) : Prop where
  nil : items [] = []
  field (kind : DateField) (rest : List Char) :
    items (kind.directive.toList ++ rest) = .field kind :: items rest
  percent (rest : List Char) : items ('%' :: '%' :: rest) = .literal '%' :: items rest
  plain {char : Char} (other : char ≠ '%') (rest : List Char) :
    items (char :: rest) = .literal char :: items rest

theorem DateItem.reads_read : DateItemReader.Reads DateItem.read where
  nil := rfl
  field kind rest := by cases kind <;> rfl
  percent rest := rfl
  plain other rest := by
    rw [DateItem.read]
    all_goals
      intros
      contradiction

namespace DatePattern

/-- In the directives of a pattern its own items are found, piece by piece. -/
theorem items_directives {items : DateItemReader} (reads : items.Reads) (pattern : DatePattern) :
    items pattern.directives.toList = pattern.map DateItem.ofPiece := by
  rw [directives, String.toList_join]
  induction pattern with
  | nil => exact reads.nil
  | cons piece rest inductionHypothesis =>
    rw [List.map_cons, List.flatMap_cons, List.map_cons, ← inductionHypothesis]
    cases piece with
    | field kind => exact reads.field kind _
    | literal char =>
      rw [DatePiece.directive]
      by_cases percent : char = '%'
      · rw [if_pos percent, percent]
        exact reads.percent _
      · rw [if_neg percent, String.toList_singleton]
        exact reads.plain percent _

/-- The check of items refuses no pattern. -/
theorem translate_eq {items : DateItemReader} (reads : items.Reads) (text : String) :
    translate items text =
      match ofText text with
      | .error fault => .error (.noPattern fault)
      | .ok pattern => .ok pattern.directives := by
  unfold translate
  cases ofText text with
  | error fault => rfl
  | ok pattern =>
    refine if_neg ?_
    rw [items_directives reads]
    intro member
    obtain ⟨piece, -, same⟩ := List.mem_map.mp member
    cases piece <;> cases same

theorem mapM_render?_ofPiece (moment : Moment) (pattern : DatePattern) :
    (pattern.map DateItem.ofPiece).mapM (DateItem.render? moment) =
      some (pattern.map (DatePiece.render moment)) := by
  induction pattern with
  | nil => rfl
  | cons piece rest inductionHypothesis =>
    have first : DateItem.render? moment (DateItem.ofPiece piece) =
        some (piece.render moment) := by
      cases piece <;> rfl
    rw [List.map_cons, List.mapM_cons, first, inductionHypothesis]
    rfl

/-- Going by way of directives renders the pattern. -/
theorem renderText_eq {items : DateItemReader} (reads : items.Reads) (moment : Moment)
    (text : String) :
    renderText items moment text =
      match ofText text with
      | .error fault => .error (.noPattern fault)
      | .ok pattern => .ok (pattern.render moment) := by
  rw [renderText, translate_eq reads]
  cases ofText text with
  | error fault => rfl
  | ok pattern =>
    simp only [items_directives reads, mapM_render?_ofPiece]
    rfl

/-- A text is translated exactly if it can be cut into parts, and never refused for an item of
its directives. The items of the directives are those of the parts, and they can be rendered for
every moment, which gives what the pattern itself is rendered to. -/
theorem translate_ok_iff_written (items : DateItemReader) (reads : items.Reads) (text : String) :
    ((∃ directives, translate items text = .ok directives) ↔
        ∃ parts, Written text.toList parts) ∧
      translate items text ≠ .error .unknownItem ∧
        ∀ parts, Written text.toList parts →
          ∃ directives, translate items text = .ok directives ∧
            items directives.toList = (parts.flatMap Part.pieces).map DateItem.ofPiece ∧
              ∀ moment, renderText items moment text =
                .ok (render moment (parts.flatMap Part.pieces)) := by
  have translated := translate_eq reads text
  refine ⟨?_, ?_, fun parts written => ?_⟩
  · rw [← ofText_ok_iff, translated]
    cases ofText text <;> simp
  · rw [translated]
    cases ofText text <;> simp
  · have read : ofText text = .ok (parts.flatMap Part.pieces) := written.read_eq
    refine ⟨directives (parts.flatMap Part.pieces), ?_, items_directives reads _,
      fun moment => ?_⟩
    · rw [translated, read]
    · rw [renderText_eq reads, read]

/-- A quoted percent sign with a quote behind it stands between two runs. -/
theorem translate_ok_iff_written_of_quotes :
    let text := "yy'%'''MMM"
    let parts := [Part.run 'y' 2, .quoted ['%', '\''], .run 'M' 3]
    DateItemReader.Reads DateItem.read ∧ Written text.toList parts ∧
      translate DateItem.read text = .ok "%y%%'%b" ∧
        renderText DateItem.read { year := 2021, month := 5, day := 7 } text = .ok "21%'May" := by
  intro text parts
  have month : Written ['M', 'M', 'M'] [.run 'M' 3] :=
    @Written.run 'M' 2 [] [] (by decide) (by decide) .nil
  have quotes : Quotes ['%', '\'', '\'', '\'', 'M', 'M', 'M'] ['%', '\''] ['M', 'M', 'M'] :=
    .char (by decide) (.doubled (.closed (by decide)))
  have chars : text.toList =
      List.replicate 2 'y' ++ ['\'', '%', '\'', '\'', '\'', 'M', 'M', 'M'] := by decide
  have written : Written text.toList parts := by
    rw [chars]
    exact .run (by decide) (by decide) (.quoted (by decide) quotes month)
  obtain ⟨-, -, items⟩ := translate_ok_iff_written DateItem.read DateItem.reads_read text
  obtain ⟨directives, translated, -, rendered⟩ := items parts written
  have same : translate DateItem.read "yy'%'''MMM" = .ok "%y%%'%b" := rfl
  have shown : render { year := 2021, month := 5, day := 7 }
      ([Part.run 'y' 2, .quoted ['%', '\''], .run 'M' 3].flatMap Part.pieces) = "21%'May" := by
    decide +kernel
  exact ⟨DateItem.reads_read, written, same, (rendered _).trans (congrArg Except.ok shown)⟩

end DatePattern

end ConsumerContract
