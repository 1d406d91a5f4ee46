/-
This file proves that a path text determines the steps it was built from.

Most of it can be read from left to right: each step opens with a point or with
a bracket, and what follows a bracket tells the kind of step. The exception is a
quoted key. A quote inside it gets a backslash, but a backslash does not, so the
quote behind a key that ends in a backslash looks like a quote inside a longer
key. Such a text would have two readings, one of which is behind a key where the
other one is still inside. Both agree on the characters, so at the next quote
they change places: the reading outside opens a key there, after a bracket, and
a quote after a bracket can only close the key of the reading inside. So one of
them is inside a key at all times, and it never gets to the end of the text.
-/

import ConsumerContract.Path
import ConsumerContract.Proofs.Digits

namespace ConsumerContract

namespace Path

/-- The characters of a key between quotes. -/
def quotedChars (key : List Char) : List Char :=
  key.flatMap fun char => if char = '\'' then ['\\', '\''] else [char]

theorem toList_quotedKey (key : String) : (quotedKey key).toList = quotedChars key.toList :=
  String.toList_ofList

end Path

/-- What a step appends to the text of a path. -/
def Step.suffix : Step → List Char
  | key name =>
    if Path.isPlainKey name then '.' :: name.toList
    else '[' :: '\'' :: (Path.quotedChars name.toList ++ ['\'', ']'])
  | index position => '[' :: ((Digit.ofNat position).map Digit.toChar ++ [']'])
  | anyItem => ['[', '*', ']']
  | anyMember => ['[', '*', ']', '.', '*']

/-- What a list of steps appends to the text of a path. -/
def Step.suffixes (steps : List Step) : List Char :=
  steps.flatMap Step.suffix

namespace Path

/-! ### Texts of paths -/

theorem toList_ne_nil {path : Path} (rooted : path.isEmpty = false) : path.text.toList ≠ [] := by
  intro empty
  rw [isEmpty, String.toList_eq_nil_iff.mp empty] at rooted
  cases rooted

theorem isEmpty_eq_false {path : Path} (filled : path.text.toList ≠ []) : path.isEmpty = false := by
  cases empty : path.isEmpty with
  | false => rfl
  | true =>
    rw [isEmpty, String.isEmpty_iff] at empty
    rw [empty] at filled
    exact absurd rfl filled

theorem toList_child {path : Path} (rooted : path.isEmpty = false) (step : Step) :
    (path.child step).text.toList = path.text.toList ++ step.suffix := by
  cases step with
  | key name =>
    rw [child, rooted, if_neg Bool.false_ne_true, Step.suffix]
    split
    · rw [String.toList_append, String.toList_append, List.append_assoc]
      rfl
    · rw [String.toList_append, String.toList_append, String.toList_append, toList_quotedKey,
        List.append_assoc, List.append_assoc]
      rfl
  | index position =>
    rw [child, Step.suffix, String.toList_append, String.toList_append, String.toList_append,
      toList_decimalText, List.append_assoc, List.append_assoc]
    rfl
  | anyItem =>
    rw [child, String.toList_append]
    rfl
  | anyMember =>
    rw [child, String.toList_append]
    rfl

theorem isEmpty_child {path : Path} (rooted : path.isEmpty = false) (step : Step) :
    (path.child step).isEmpty = false := by
  refine isEmpty_eq_false ?_
  rw [toList_child rooted]
  exact List.append_ne_nil_of_left_ne_nil (toList_ne_nil rooted) _

theorem toList_ofSteps {root : Path} (rooted : root.isEmpty = false) (steps : List Step) :
    (ofSteps root steps).text.toList = root.text.toList ++ Step.suffixes steps := by
  induction steps generalizing root with
  | nil => exact (List.append_nil _).symm
  | cons step rest inductionHypothesis =>
    rw [ofSteps, List.foldl_cons, ← ofSteps, inductionHypothesis (isEmpty_child rooted step),
      toList_child rooted, List.append_assoc]
    rfl

theorem isEmpty_ofSteps {root : Path} (rooted : root.isEmpty = false) (steps : List Step) :
    (root.ofSteps steps).isEmpty = false := by
  refine isEmpty_eq_false ?_
  rw [toList_ofSteps rooted]
  exact List.append_ne_nil_of_left_ne_nil (toList_ne_nil rooted) _

theorem ofSteps_append (root : Path) (first second : List Step) :
    ofSteps root (first ++ second) = ofSteps (ofSteps root first) second :=
  List.foldl_append

end Path

/-! ### Reading up to a mark -/

/-- Two texts that agree, each split in front of the first character without a property,
are split at the same place. -/
theorem split_unique {property : Char → Bool} {first second rest others : List Char}
    (all : ∀ char ∈ first, property char = true) (all' : ∀ char ∈ second, property char = true)
    (mark : ∀ char ∈ rest.head?, property char = false)
    (mark' : ∀ char ∈ others.head?, property char = false)
    (same : first ++ rest = second ++ others) : first = second ∧ rest = others := by
  have split {front behind : List Char} (all : ∀ char ∈ front, property char = true)
      (mark : ∀ char ∈ behind.head?, property char = false) :
      (front ++ behind).takeWhile property = front := by
    rw [List.takeWhile_append_of_pos all]
    cases behind with
    | nil => rw [List.takeWhile_nil, List.append_nil]
    | cons char behind =>
      rw [List.takeWhile_cons_of_neg (by rw [mark char rfl]; exact Bool.false_ne_true),
        List.append_nil]
  have sameFront : first = second := by
    rw [← split all mark, same, split all' mark']
  rw [sameFront] at same
  exact ⟨sameFront, List.append_cancel_left same⟩

namespace Step

/-- A key without quotes ends where the next step begins. -/
theorem head_suffixes (steps : List Step) :
    ∀ char ∈ (suffixes steps).head?, char = '.' ∨ char = '[' := by
  intro char member
  cases steps with
  | nil => cases member
  | cons step rest =>
    rw [suffixes, List.flatMap_cons] at member
    cases step with
    | key name =>
      rw [suffix] at member
      split at member
      · exact Or.inl (Option.some.inj member).symm
      · exact Or.inr (Option.some.inj member).symm
    | index position => exact Or.inr (Option.some.inj member).symm
    | anyItem => exact Or.inr (Option.some.inj member).symm
    | anyMember => exact Or.inr (Option.some.inj member).symm

theorem head_suffixes_not_plain (steps : List Step) :
    ∀ char ∈ (suffixes steps).head?, Path.isPlainChar char = false := by
  intro char member
  rcases head_suffixes steps char member with rfl | rfl
  · decide
  · decide

theorem plain_of_isPlainKey {name : String} (plain : Path.isPlainKey name = true) :
    name.toList ≠ [] ∧ ∀ char ∈ name.toList, Path.isPlainChar char = true := by
  rw [Path.isPlainKey, Bool.and_eq_true, List.all_eq_true] at plain
  refine ⟨fun empty => ?_, plain.2⟩
  rw [String.toList_eq_nil_iff.mp empty] at plain
  exact Bool.false_ne_true plain.1

/-! ### Inside and outside of a quoted key -/

open ConsumerContract.Path (quotedChars)

theorem quotedChars_cons (char : Char) (key : List Char) :
    quotedChars (char :: key) = (if char = '\'' then ['\\', '\''] else [char]) ++ quotedChars key :=
  List.flatMap_cons

/-- Where a text without quotes and backslashes stands inside a key, it is part of the key. -/
theorem quoted_prefix (front : List Char) (bare : ∀ char ∈ front, char ≠ '\'' ∧ char ≠ '\\')
    {key behind rest : List Char} (same : quotedChars key ++ '\'' :: behind = front ++ rest) :
    ∃ key', key = front ++ key' ∧ quotedChars key' ++ '\'' :: behind = rest := by
  induction front generalizing key with
  | nil => exact ⟨key, rfl, same⟩
  | cons char front inductionHypothesis =>
    obtain ⟨notQuote, notBackslash⟩ := bare char List.mem_cons_self
    cases key with
    | nil => exact absurd (List.cons.inj same).1.symm notQuote
    | cons other key =>
      rw [quotedChars_cons] at same
      by_cases quote : other = '\''
      · rw [if_pos quote] at same
        exact absurd (List.cons.inj same).1.symm notBackslash
      · rw [if_neg quote] at same
        obtain ⟨sameChar, sameRest⟩ := List.cons.inj same
        obtain ⟨key', found, read⟩ := inductionHypothesis
          (fun char member => bare char (List.mem_cons_of_mem _ member)) sameRest
        exact ⟨key', by rw [sameChar, found, List.cons_append], read⟩

/-- A quote that follows nothing of a key closes it. -/
theorem quoted_closes {key behind rest : List Char}
    (same : quotedChars key ++ '\'' :: behind = '\'' :: rest) : key = [] ∧ behind = rest := by
  cases key with
  | nil => exact ⟨rfl, (List.cons.inj same).2⟩
  | cons char key =>
    rw [quotedChars_cons] at same
    by_cases quote : char = '\''
    · rw [if_pos quote] at same
      exact absurd (List.cons.inj same).1 (by decide)
    · rw [if_neg quote] at same
      exact absurd (List.cons.inj same).1 quote

/-- A step either is a quoted key or is written without quotes and backslashes. -/
theorem suffix_bare_or_quoted (step : Step) :
    (∀ char ∈ step.suffix, char ≠ '\'' ∧ char ≠ '\\') ∨
      ∃ name, step.suffix = '[' :: '\'' :: (quotedChars name ++ ['\'', ']']) := by
  cases step with
  | key name =>
    rw [suffix]
    by_cases plain : Path.isPlainKey name = true
    · rw [if_pos plain]
      refine Or.inl fun char member => ?_
      rcases List.mem_cons.mp member with rfl | member
      · decide
      · have plainChar := (plain_of_isPlainKey plain).2 char member
        constructor
        · rintro rfl
          exact absurd plainChar (by decide)
        · rintro rfl
          exact absurd plainChar (by decide)
    · rw [if_neg plain]
      exact Or.inr ⟨_, rfl⟩
  | index position =>
    have digits : ∀ digit : Digit, digit.toChar ≠ '\'' ∧ digit.toChar ≠ '\\' := by decide
    refine Or.inl fun char member => ?_
    rw [suffix, List.mem_cons, List.mem_append, List.mem_map, List.mem_singleton] at member
    rcases member with rfl | ⟨digit, -, rfl⟩ | rfl
    · decide
    · exact digits digit
    · decide
  | anyItem => exact Or.inl (by simp [suffix])
  | anyMember => exact Or.inl (by simp [suffix])

/-- A text has no reading that ends inside a key and another one that ends outside: what is
left of a key, with steps behind it, is never the text of steps alone. -/
theorem quoted_ne_suffixes (key : List Char) (steps others : List Step) :
    quotedChars key ++ '\'' :: ']' :: suffixes steps ≠ suffixes others := by
  intro same
  cases others with
  | nil => exact absurd (congrArg List.length same) (by simp [suffixes])
  | cons step rest =>
    have parts : suffixes (step :: rest) = step.suffix ++ suffixes rest := List.flatMap_cons
    rw [parts] at same
    rcases suffix_bare_or_quoted step with bare | ⟨name, quoted⟩
    · obtain ⟨key', -, read⟩ := quoted_prefix _ bare same
      exact quoted_ne_suffixes key' steps rest read
    · -- The step opens a key after a bracket; there the other reading closes its own.
      rw [quoted, List.cons_append, List.cons_append, List.append_assoc] at same
      obtain ⟨key', -, read⟩ := quoted_prefix ['['] (by simp) same
      obtain ⟨-, behind⟩ := quoted_closes read
      obtain ⟨name', -, read'⟩ := quoted_prefix [']'] (by simp) behind.symm
      exact quoted_ne_suffixes name' rest steps read'
termination_by steps.length + others.length

/-- A quoted key with steps behind it can be read in one way only. -/
theorem quoted_unique {key key' : List Char} {steps others : List Step}
    (same : quotedChars key ++ '\'' :: ']' :: suffixes steps =
      quotedChars key' ++ '\'' :: ']' :: suffixes others) :
    key = key' ∧ suffixes steps = suffixes others := by
  -- Where one reading closes the key at a quote of the other, one is inside and one outside.
  have apart {key : List Char} {steps others : List Step} :
      quotedChars key ++ '\'' :: ']' :: suffixes steps ≠ ']' :: suffixes others := fun same =>
    have ⟨key', _, read⟩ := quoted_prefix [']'] (by simp) same
    quoted_ne_suffixes key' steps others read
  induction key generalizing key' with
  | nil =>
    obtain ⟨rfl, behind⟩ := quoted_closes same.symm
    exact ⟨rfl, (List.cons.inj behind).2.symm⟩
  | cons char key inductionHypothesis =>
    cases key' with
    | nil => exact absurd (quoted_closes same).1 (List.cons_ne_nil _ _)
    | cons char' key' =>
      rw [quotedChars_cons, quotedChars_cons] at same
      by_cases quote : char = '\''
      · by_cases quote' : char' = '\''
        · rw [if_pos quote, if_pos quote'] at same
          obtain ⟨sameKey, sameSteps⟩ :=
            inductionHypothesis (List.cons.inj (List.cons.inj same).2).2
          exact ⟨by rw [quote, quote', sameKey], sameSteps⟩
        · rw [if_pos quote, if_neg quote'] at same
          -- The backslash is a character of the second key.
          obtain ⟨-, behind⟩ := List.cons.inj same
          obtain ⟨-, closed⟩ := quoted_closes behind.symm
          exact absurd closed.symm apart
      · by_cases quote' : char' = '\''
        · rw [if_neg quote, if_pos quote'] at same
          obtain ⟨-, behind⟩ := List.cons.inj same
          obtain ⟨-, closed⟩ := quoted_closes behind
          exact absurd closed.symm apart
        · rw [if_neg quote, if_neg quote'] at same
          obtain ⟨sameChar, sameRest⟩ := List.cons.inj same
          obtain ⟨sameKey, sameSteps⟩ := inductionHypothesis sameRest
          exact ⟨by rw [sameChar, sameKey], sameSteps⟩

/-! ### Steps from texts -/

theorem map_toChar_head (position : Nat) :
    ∃ digit rest, (Digit.ofNat position).map Digit.toChar = Digit.toChar digit :: rest := by
  cases found : Digit.ofNat position with
  | nil => exact absurd found (Digit.ofNat_ne_nil position)
  | cons digit rest => exact ⟨digit, _, List.map_cons⟩

theorem index_unique {position other : Nat} {rest behind : List Char}
    (same : (Digit.ofNat position).map Digit.toChar ++ ']' :: rest =
      (Digit.ofNat other).map Digit.toChar ++ ']' :: behind) :
    position = other ∧ rest = behind := by
  have digits (number : Nat) :
      ∀ char ∈ (Digit.ofNat number).map Digit.toChar, (char != ']') = true := by
    have each : ∀ digit : Digit, (digit.toChar != ']') = true := by decide
    intro char member
    obtain ⟨digit, -, rfl⟩ := List.mem_map.mp member
    exact each digit
  have bracket (behind : List Char) :
      ∀ char ∈ (']' :: behind).head?, (char != ']') = false := by
    rintro char member
    rw [← Option.some.inj member]
    decide
  obtain ⟨sameDigits, sameRest⟩ :=
    split_unique (digits position) (digits other) (bracket rest) (bracket behind) same
  exact ⟨Digit.ofNat_injective
    ((List.map_inj_right fun first second => Digit.toChar_injective first second).mp sameDigits),
    (List.cons.inj sameRest).2⟩

/-- How a step is written: as a plain key, a quoted key, a wildcard or a number. -/
def opening : Step → Nat
  | key name => if Path.isPlainKey name then 0 else 1
  | anyItem | anyMember => 2
  | index _ => 3

/-- The way in which the step at the front of a text is written. -/
def openingOf : List Char → Nat
  | '.' :: _ => 0
  | '[' :: '\'' :: _ => 1
  | '[' :: '*' :: _ => 2
  | _ => 3

theorem openingOf_suffix (step : Step) (rest : List Char) :
    openingOf (step.suffix ++ rest) = step.opening := by
  cases step with
  | key name =>
    rw [suffix, opening]
    split
    · rfl
    · rfl
  | index position =>
    obtain ⟨digit, others, found⟩ := map_toChar_head position
    have notMark : ∀ digit : Digit, digit.toChar ≠ '\'' ∧ digit.toChar ≠ '*' := by decide
    obtain ⟨notQuote, notStar⟩ := notMark digit
    rw [suffix, found]
    simp [openingOf, opening, notQuote, notStar]
  | anyItem => rfl
  | anyMember => rfl

theorem opening_key_lt (name : String) : (key name).opening < 2 := by
  rw [opening]
  split
  · decide
  · decide

/-- What follows `[*]` does not make it `[*].*`, because a plain key has no star. -/
theorem suffixes_ne_star (steps : List Step) (rest : List Char) :
    suffixes steps ≠ '.' :: '*' :: rest := by
  intro same
  cases steps with
  | nil => cases same
  | cons step others =>
    rw [suffixes, List.flatMap_cons] at same
    have written : step.opening = 0 := by rw [← openingOf_suffix step, same]; rfl
    cases step with
    | key name =>
      by_cases plain : Path.isPlainKey name = true
      · obtain ⟨filled, plainChars⟩ := plain_of_isPlainKey plain
        rw [suffix, if_pos plain] at same
        cases chars : name.toList with
        | nil => exact filled chars
        | cons char rest' =>
          rw [chars, List.cons_append] at same
          have star : char = '*' := (List.cons.inj (List.cons.inj same).2).1
          have plainStar := plainChars char (chars ▸ List.mem_cons_self)
          rw [star] at plainStar
          exact absurd plainStar (by decide)
      · rw [opening, if_neg plain] at written
        cases written
    | index position => cases written
    | anyItem => cases written
    | anyMember => cases written

theorem key_unique {name name' : String} {steps others : List Step}
    (written : (key name).opening = (key name').opening)
    (same : (key name).suffix ++ suffixes steps = (key name').suffix ++ suffixes others) :
    name = name' ∧ suffixes steps = suffixes others := by
  rw [opening, opening] at written
  rw [suffix, suffix] at same
  by_cases plain : Path.isPlainKey name = true
  · by_cases plain' : Path.isPlainKey name' = true
    · rw [if_pos plain, if_pos plain'] at same
      obtain ⟨sameName, sameSteps⟩ := split_unique (plain_of_isPlainKey plain).2
        (plain_of_isPlainKey plain').2 (head_suffixes_not_plain steps)
        (head_suffixes_not_plain others) (List.cons.inj same).2
      exact ⟨String.toList_inj.mp sameName, sameSteps⟩
    · rw [if_pos plain, if_neg plain'] at written
      cases written
  · by_cases plain' : Path.isPlainKey name' = true
    · rw [if_neg plain, if_pos plain'] at written
      cases written
    · rw [if_neg plain, if_neg plain'] at same
      simp only [List.cons_append, List.append_assoc, List.nil_append] at same
      obtain ⟨sameName, sameSteps⟩ := quoted_unique (List.cons.inj (List.cons.inj same).2).2
      exact ⟨String.toList_inj.mp sameName, sameSteps⟩

/-- The text behind a path begins with one step only. -/
theorem suffix_unique {step other : Step} {steps others : List Step}
    (same : step.suffix ++ suffixes steps = other.suffix ++ suffixes others) :
    step = other ∧ suffixes steps = suffixes others := by
  have written : step.opening = other.opening := by
    rw [← openingOf_suffix step (suffixes steps), same, openingOf_suffix]
  cases step with
  | key name =>
    have low := opening_key_lt name
    cases other with
    | key name' =>
      obtain ⟨sameName, sameSteps⟩ := key_unique written same
      exact ⟨by rw [sameName], sameSteps⟩
    | index position => rw [written] at low; exact absurd low (by simp [opening])
    | anyItem => rw [written] at low; exact absurd low (by simp [opening])
    | anyMember => rw [written] at low; exact absurd low (by simp [opening])
  | index position =>
    cases other with
    | key name =>
      have low := opening_key_lt name
      rw [← written] at low
      exact absurd low (by simp [opening])
    | index position' =>
      rw [suffix, suffix, List.cons_append, List.cons_append, List.append_assoc,
        List.append_assoc] at same
      obtain ⟨samePosition, sameSteps⟩ := index_unique (List.cons.inj same).2
      exact ⟨by rw [samePosition], sameSteps⟩
    | anyItem => cases written
    | anyMember => cases written
  | anyItem =>
    cases other with
    | key name =>
      have low := opening_key_lt name
      rw [← written] at low
      exact absurd low (by simp [opening])
    | index position => cases written
    | anyItem => exact ⟨rfl, List.append_cancel_left same⟩
    | anyMember =>
      exact absurd (List.append_cancel_left same) (suffixes_ne_star _ _)
  | anyMember =>
    cases other with
    | key name =>
      have low := opening_key_lt name
      rw [← written] at low
      exact absurd low (by simp [opening])
    | index position => cases written
    | anyItem =>
      exact absurd (List.append_cancel_left same.symm) (suffixes_ne_star _ _)
    | anyMember => exact ⟨rfl, List.append_cancel_left same⟩

theorem suffix_ne_nil (step : Step) : step.suffix ≠ [] := by
  cases step with
  | key name =>
    rw [suffix]
    split
    · exact List.cons_ne_nil _ _
    · exact List.cons_ne_nil _ _
  | index position => exact List.cons_ne_nil _ _
  | anyItem => exact List.cons_ne_nil _ _
  | anyMember => exact List.cons_ne_nil _ _

theorem suffixes_injective {first second : List Step} (same : suffixes first = suffixes second) :
    first = second := by
  have filled (step : Step) (rest : List Step) : suffixes (step :: rest) ≠ [] :=
    List.append_ne_nil_of_left_ne_nil (suffix_ne_nil step) _
  induction first generalizing second with
  | nil =>
    cases second with
    | nil => rfl
    | cons step rest => exact absurd same.symm (filled step rest)
  | cons step rest inductionHypothesis =>
    cases second with
    | nil => exact absurd same (filled step rest)
    | cons step' rest' =>
      rw [suffixes, suffixes, List.flatMap_cons, List.flatMap_cons] at same
      obtain ⟨sameStep, sameRest⟩ := suffix_unique same
      rw [sameStep, inductionHypothesis sameRest]

end Step

namespace Path

/-- Different lists of steps from one root have different texts, whatever characters the
keys have. -/
theorem ofSteps_injective {root : Path} (rooted : root.isEmpty = false) {first second : List Step}
    (same : ofSteps root first = ofSteps root second) : first = second := by
  have sameText := congrArg (fun path => path.text.toList) same
  simp only [toList_ofSteps rooted] at sameText
  exact Step.suffixes_injective (List.append_cancel_left sameText)

theorem quotedKey_append (first second : String) :
    quotedKey (first ++ second) = quotedKey first ++ quotedKey second := by
  refine String.toList_inj.mp ?_
  rw [String.toList_append, toList_quotedKey, toList_quotedKey, toList_quotedKey,
    String.toList_append]
  exact List.flatMap_append

theorem text_child_of_quoted {path : Path} (rooted : path.isEmpty = false) {name : String}
    {char : Char} (member : char ∈ name.toList) (quoted : isPlainChar char = false) :
    (path.child (.key name)).text = path.text ++ "['" ++ quotedKey name ++ "']" := by
  have notPlain : ¬ isPlainKey name = true := by
    intro plain
    rw [(Step.plain_of_isPlainKey plain).2 char member] at quoted
    cases quoted
  rw [child, rooted, if_neg Bool.false_ne_true, if_neg notPlain]

/-- Lists of steps below the root of a body have one text only if they are equal. The text of a key
that ends in a backslash shows that reading on from the left does not tell: up to the quote that
closes it, it begins like the text of every key that has a quote in place of the backslash. -/
theorem text_ofSteps_body :
    (∀ first second : List Step,
      (body.ofSteps first).text = (body.ofSteps second).text ↔ first = second) ∧
    ∀ key rest : String, ∃ front behind : String,
      (body.child (.key (key ++ "\\"))).text = front ++ "]" ∧
        (body.child (.key (key ++ "'" ++ rest))).text = front ++ behind := by
  have rooted : body.isEmpty = false := rfl
  refine ⟨fun first second => ⟨fun same => ?_, fun same => by rw [same]⟩, fun key rest => ?_⟩
  · exact ofSteps_injective rooted (congrArg Path.mk same)
  · have opened : body.text ++ "['" = "$['" := by decide
    have kept : quotedKey "\\" = "\\" := by decide
    have escaped : quotedKey "'" = "\\'" := by decide
    have closed : "\\" ++ "']" = "\\'" ++ "]" := by decide
    have backslash : '\\' ∈ (key ++ "\\").toList := by simp
    have quote : '\'' ∈ (key ++ "'" ++ rest).toList := by simp
    refine ⟨"$['" ++ quotedKey key ++ "\\'", quotedKey rest ++ "']", ?_, ?_⟩
    · rw [text_child_of_quoted rooted backslash rfl, quotedKey_append, opened, kept,
        String.append_assoc, String.append_assoc, closed, String.append_assoc, String.append_assoc]
    · rw [text_child_of_quoted rooted quote rfl, quotedKey_append, quotedKey_append, opened,
        escaped, String.append_assoc, String.append_assoc, String.append_assoc,
        String.append_assoc, String.append_assoc]

end Path

end ConsumerContract
