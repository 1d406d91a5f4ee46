/-
This file proves that a printed JSON value says which value was printed. The text of a
value is followed by a comma, by the end of a line or by nothing. Whatever follows, the
text ends in one place only: the first character tells the kind of a value, a number goes
on as long as its characters do, a string up to the first quote that is not escaped, and
a collection has as many lines as there are commas between them. So by induction on a
value no other value is printed alike.
-/

import ConsumerContract.Json.Printer
import ConsumerContract.Json.Token
import ConsumerContract.Proofs.JsonTree
import ConsumerContract.Proofs.Numbers

namespace ConsumerContract

/-! ### What follows a value -/

/-- What may follow the text of a value. -/
def Json.Closes (rest : List Char) : Prop :=
  ∀ char ∈ rest.head?, char = ',' ∨ char = '\n'

theorem Json.closes_nil : Closes [] :=
  fun _ member => nomatch member

theorem Json.closes_cons {char : Char} (mark : char = ',' ∨ char = '\n') (rest : List Char) :
    Closes (char :: rest) :=
  fun _ member => Option.some.inj member ▸ mark

theorem Json.Closes.not_digit {rest : List Char} (closes : Closes rest) :
    ∀ char ∈ rest.head?, Digit.ofChar? char = none := by
  intro char member
  rcases closes char member with rfl | rfl
  · decide
  · decide

/-! ### Numbers -/

theorem Exponent.eq_of_digits {first second : Exponent} (sign : first.negative = second.negative)
    (same : first.digits = second.digits) : first = second := by
  obtain ⟨negative, zeros, magnitude⟩ := first
  obtain ⟨negative', zeros', magnitude'⟩ := second
  obtain rfl : negative = negative' := sign
  have value (zeros magnitude : Nat) :
      Digit.value (Exponent.digits ⟨negative, zeros, magnitude⟩) = magnitude := by
    rw [digits, Digit.value_replicate_zero, Digit.value_ofNat]
  obtain rfl : magnitude = magnitude' := by
    rw [← value zeros magnitude, same, value]
  have lengths := congrArg List.length same
  rw [digits, digits, List.length_append, List.length_append, List.length_replicate,
    List.length_replicate] at lengths
  obtain rfl : zeros = zeros' := Nat.add_right_cancel lengths
  rfl

namespace Numeral

variable {rest rest' : List Char}

theorem head_append_of_closes {front : List Char}
    (bare : ∀ char ∈ front.head?, Digit.ofChar? char = none) (closes : Json.Closes rest) :
    ∀ char ∈ (front ++ rest).head?, Digit.ofChar? char = none := by
  cases front with
  | nil => exact closes.not_digit
  | cons char front => exact bare

theorem ne_of_closes {mark : Char} (noComma : mark ≠ ',') (noEnd : mark ≠ '\n')
    (closes : Json.Closes rest) (behind : List Char) : mark :: behind ≠ rest := by
  rintro rfl
  exact (closes mark rfl).elim noComma noEnd

theorem exponentChars_append_inj {first second : Option Exponent} (closes : Json.Closes rest)
    (closes' : Json.Closes rest')
    (same : exponentChars first ++ rest = exponentChars second ++ rest') :
    first = second ∧ rest = rest' := by
  cases first with
  | none =>
    cases second with
    | none => exact ⟨rfl, same⟩
    | some second => exact absurd same.symm (ne_of_closes (by decide) (by decide) closes _)
  | some first =>
    cases second with
    | none => exact absurd same (ne_of_closes (by decide) (by decide) closes' _)
    | some second =>
      obtain ⟨sameSign, sameDigits⟩ := List.cons.inj (List.cons.inj same).2
      obtain ⟨digits, behind⟩ := Digit.append_inj closes.not_digit closes'.not_digit sameDigits
      have sign : first.negative = second.negative := by
        cases negative : first.negative <;> cases negative' : second.negative <;>
          rw [negative, negative'] at sameSign <;> first | rfl | exact absurd sameSign (by decide)
      exact ⟨congrArg some (Exponent.eq_of_digits sign digits), behind⟩

theorem tailChars_append_inj {first second : Numeral} (closes : Json.Closes rest)
    (closes' : Json.Closes rest') (same : first.tailChars ++ rest = second.tailChars ++ rest') :
    first.fraction = second.fraction ∧ first.exponent = second.exponent ∧ rest = rest' := by
  rw [tailChars, tailChars, List.append_assoc, List.append_assoc] at same
  have noPoint (exponent : Option Exponent) {rest : List Char} (closes : Json.Closes rest)
      (behind : List Char) : '.' :: behind ≠ exponentChars exponent ++ rest := by
    cases exponent with
    | none => exact ne_of_closes (by decide) (by decide) closes behind
    | some exponent => exact fun same => absurd (List.cons.inj same).1 (by decide)
  cases fraction : first.fraction with
  | nil =>
    cases fraction' : second.fraction with
    | nil =>
      rw [fraction, fraction'] at same
      exact ⟨rfl, exponentChars_append_inj closes closes' same⟩
    | cons digit digits =>
      rw [fraction, fraction'] at same
      exact absurd same.symm (noPoint first.exponent closes _)
  | cons digit digits =>
    cases fraction' : second.fraction with
    | nil =>
      rw [fraction, fraction'] at same
      exact absurd same (noPoint second.exponent closes' _)
    | cons digit' digits' =>
      rw [fraction, fraction'] at same
      obtain ⟨sameDigits, behind⟩ := Digit.append_inj
        (head_append_of_closes (head_exponentChars first.exponent) closes)
        (head_append_of_closes (head_exponentChars second.exponent) closes')
        (List.cons.inj same).2
      exact ⟨sameDigits, exponentChars_append_inj closes closes' behind⟩

/-- The character in front of the digits is a sign or there is none. -/
theorem text_append_inj {first second : Numeral} (closes : Json.Closes rest)
    (closes' : Json.Closes rest')
    (same : first.text.toList ++ rest = second.text.toList ++ rest') :
    first = second ∧ rest = rest' := by
  rw [toList_text, toList_text, List.append_assoc, List.append_assoc, List.append_assoc,
    List.append_assoc] at same
  have noSign (number : Nat) (behind behind' : List Char) :
      '-' :: behind ≠ (Digit.ofNat number).map Digit.toChar ++ behind' := by
    obtain ⟨digit, digits, whole⟩ := List.exists_cons_of_ne_nil (Digit.ofNat_ne_nil number)
    have digitChar : ∀ digit : Digit, '-' ≠ digit.toChar := by decide
    rw [whole]
    exact fun same => digitChar digit (List.cons.inj same).1
  obtain ⟨sign, digits⟩ : first.negative = second.negative ∧
      (Digit.ofNat first.whole).map Digit.toChar ++ (first.tailChars ++ rest) =
        (Digit.ofNat second.whole).map Digit.toChar ++ (second.tailChars ++ rest') := by
    cases negative : first.negative with
    | true =>
      cases negative' : second.negative with
      | true =>
        rw [negative, negative'] at same
        exact ⟨rfl, (List.cons.inj same).2⟩
      | false =>
        rw [negative, negative'] at same
        exact absurd same (noSign second.whole _ _)
    | false =>
      cases negative' : second.negative with
      | true =>
        rw [negative, negative'] at same
        exact absurd same.symm (noSign first.whole _ _)
      | false =>
        rw [negative, negative'] at same
        exact ⟨rfl, same⟩
  obtain ⟨whole, tail⟩ := Digit.append_inj (head_append_of_closes first.head_tailChars closes)
    (head_append_of_closes second.head_tailChars closes') digits
  obtain ⟨fraction, exponent, behind⟩ := tailChars_append_inj closes closes' tail
  obtain ⟨negative, number, places, power⟩ := first
  obtain ⟨negative', number', places', power'⟩ := second
  obtain rfl : negative = negative' := sign
  obtain rfl : number = number' := Digit.ofNat_injective whole
  obtain rfl : places = places' := fraction
  obtain rfl : power = power' := exponent
  exact ⟨rfl, behind⟩

end Numeral

namespace Json

/-! ### Strings -/

/-- The first character of a string literal, as the reader understands escapes, and what follows. -/
def unescaped : List Char → Option (Char × List Char)
  | '\\' :: 'u' :: a :: b :: c :: d :: rest =>
    (JsonToken.hexNumber? [a, b, c, d]).map fun number => (Char.ofNat number, rest)
  | '\\' :: letter :: rest => (JsonToken.escapedChar? letter).map fun char => (char, rest)
  | char :: rest => some (char, rest)
  | [] => none

/-- Escaping can be undone, whatever follows. -/
theorem unescaped_append (char : Char) (rest : List Char) :
    unescaped (escaped char ++ rest) = some (char, rest) := by
  unfold escaped
  split_ifs with quote backslash back tab newline feed carriage control
  · rw [quote]; rfl
  · rw [backslash]; rfl
  · rw [back]; rfl
  · rw [tab]; rfl
  · rw [newline]; rfl
  · rw [feed]; rfl
  · rw [carriage]; rfl
  · have number : ∀ number < 0x20, JsonToken.hexNumber?
        ['0', '0', hexDigit (number / 16), hexDigit (number % 16)] = some number := by
      decide
    have read : unescaped (['\\', 'u', '0', '0', hexDigit (char.toNat / 16),
        hexDigit (char.toNat % 16)] ++ rest) =
        (JsonToken.hexNumber? ['0', '0', hexDigit (char.toNat / 16),
          hexDigit (char.toNat % 16)]).map fun number => (Char.ofNat number, rest) := rfl
    rw [read, number char.toNat control, Option.map_some, Char.ofNat_toNat]
  · rw [List.singleton_append, unescaped]
    · exact fun a b c d behind found _ => backslash found
    · exact fun letter behind found _ => backslash found

theorem escaped_append_inj {first second : Char} {rest rest' : List Char}
    (same : escaped first ++ rest = escaped second ++ rest') : first = second ∧ rest = rest' := by
  have read := congrArg unescaped same
  rw [unescaped_append, unescaped_append] at read
  exact Prod.mk.inj (Option.some.inj read)

/-- No character is escaped to something that begins with a quote. -/
theorem quote_ne_escaped (char : Char) (rest rest' : List Char) :
    '"' :: rest ≠ escaped char ++ rest' := by
  intro same
  have read := congrArg unescaped same
  rw [unescaped_append] at read
  obtain rfl : '"' = char := (Prod.mk.inj (Option.some.inj read)).1
  exact absurd (List.cons.inj same).1 (by decide)

theorem toList_quoted (text : String) :
    (quoted text).toList = '"' :: (text.toList.flatMap escaped ++ ['"']) := by
  rw [quoted, String.toList_append, String.toList_append, String.toList_ofList,
    String.toList_ofList]
  rfl

theorem quoted_append_inj {first second : String} {rest rest' : List Char}
    (same : (quoted first).toList ++ rest = (quoted second).toList ++ rest') :
    first = second ∧ rest = rest' := by
  rw [toList_quoted, toList_quoted] at same
  rw [List.cons_append, List.cons_append, List.append_assoc, List.append_assoc] at same
  replace same := (List.cons.inj same).2
  suffices texts : first.toList = second.toList ∧ rest = rest' from
    ⟨String.toList_injective texts.1, texts.2⟩
  generalize first.toList = chars at same ⊢
  generalize second.toList = chars' at same ⊢
  induction chars generalizing chars' with
  | nil =>
    cases chars' with
    | nil => exact ⟨rfl, (List.cons.inj same).2⟩
    | cons char' chars' =>
      rw [List.flatMap_cons, List.append_assoc] at same
      exact absurd same (quote_ne_escaped char' _ _)
  | cons char chars inductionHypothesis =>
    rw [List.flatMap_cons, List.append_assoc] at same
    cases chars' with
    | nil => exact absurd same.symm (quote_ne_escaped char _ _)
    | cons char' chars' =>
      rw [List.flatMap_cons, List.append_assoc] at same
      obtain ⟨rfl, behind⟩ := escaped_append_inj same
      obtain ⟨rfl, after⟩ := inductionHypothesis chars' behind
      exact ⟨rfl, after⟩

/-! ### Collections -/

/-- The lines of a collection behind the first one. -/
def furtherChars (level : Nat) (closing : List Char) : List (List Char) → List Char
  | [] => (newline level).toList ++ closing
  | line :: rest =>
    ',' :: ((newline (level + 1)).toList ++ (line ++ furtherChars level closing rest))

theorem intercalate_append_closing (level : Nat) (closing line : List Char)
    (rest : List (List Char)) :
    (',' :: (newline (level + 1)).toList).intercalate (line :: rest) ++
        ((newline level).toList ++ closing) = line ++ furtherChars level closing rest := by
  induction rest generalizing line with
  | nil => rw [List.intercalate_singleton, furtherChars]
  | cons next rest inductionHypothesis =>
    rw [List.intercalate_cons_cons, List.append_assoc, List.append_assoc, inductionHypothesis,
      furtherChars]
    rfl

theorem toList_enclosed (opening closing : String) (level : Nat) (lines : List String) :
    (enclosed opening closing level lines).toList =
      opening.toList ++ match lines.map String.toList with
        | [] => closing.toList
        | line :: rest => (newline (level + 1)).toList ++
            (line ++ furtherChars level closing.toList rest) := by
  cases lines with
  | nil => rw [enclosed, List.isEmpty_nil, if_pos rfl, String.toList_append, List.map_nil]
  | cons line rest =>
    have separator : ("," ++ newline (level + 1)).toList = ',' :: (newline (level + 1)).toList := by
      rw [String.toList_append]
      rfl
    rw [enclosed, List.isEmpty_cons, if_neg Bool.false_ne_true, List.map_cons]
    dsimp only
    rw [← intercalate_append_closing, String.toList_append, String.toList_append,
      String.toList_append, String.toList_append, String.toList_intercalate, separator,
      List.map_cons]
    simp only [List.append_assoc]

theorem toList_newline (level : Nat) :
    (newline level).toList = '\n' :: List.replicate (2 * level) ' ' := by
  rw [newline, String.toList_append, String.toList_ofList, String.toList_ofList]
  rfl

theorem closes_furtherChars (level : Nat) (closing : List Char) (lines : List (List Char))
    (rest : List Char) : Closes (furtherChars level closing lines ++ rest) := by
  cases lines with
  | nil =>
    rw [furtherChars, toList_newline]
    exact closes_cons (Or.inr rfl) _
  | cons line lines => exact closes_cons (Or.inl rfl) _

/-- The text of an entry ends in one place only, whatever follows. -/
def CutsOff {Entry : Type} (text : Entry → String) (entry : Entry) : Prop :=
  ∀ (other : Entry) (rest rest' : List Char), Closes rest → Closes rest' →
    (text entry).toList ++ rest = (text other).toList ++ rest' → entry = other ∧ rest = rest'

section Collections

variable {Entry : Type} {text : Entry → String} {entries entries' : List Entry}
  {rest rest' : List Char}

/-- There are as many further lines as commas. -/
theorem furtherChars_append_inj (each : ∀ entry ∈ entries, CutsOff text entry) {level : Nat}
    {closing : List Char}
    (same : furtherChars level closing (entries.map (text · |>.toList)) ++ rest =
      furtherChars level closing (entries'.map (text · |>.toList)) ++ rest') :
    entries = entries' ∧ rest = rest' := by
  induction entries generalizing entries' with
  | nil =>
    cases entries' with
    | nil => exact ⟨rfl, List.append_cancel_left same⟩
    | cons entry' entries' =>
      rw [List.map_nil, furtherChars, toList_newline] at same
      exact absurd (List.cons.inj same).1 (by decide)
  | cons entry entries inductionHypothesis =>
    obtain ⟨here, others⟩ := List.forall_mem_cons.mp each
    cases entries' with
    | nil =>
      rw [List.map_nil, List.map_cons, furtherChars, furtherChars, toList_newline level] at same
      exact absurd (List.cons.inj same).1 (by decide)
    | cons entry' entries' =>
      rw [List.map_cons, List.map_cons, furtherChars, furtherChars, List.cons_append,
        List.cons_append, List.append_assoc, List.append_assoc, List.append_assoc,
        List.append_assoc] at same
      obtain ⟨rfl, behind⟩ := here entry' _ _ (closes_furtherChars _ _ _ _)
        (closes_furtherChars _ _ _ _) (List.append_cancel_left (List.cons.inj same).2)
      obtain ⟨rfl, after⟩ := inductionHypothesis others behind
      exact ⟨rfl, after⟩

theorem enclosed_append_inj (each : ∀ entry ∈ entries, CutsOff text entry) {level : Nat}
    {opening closing : String} {mark : Char} (closed : closing.toList = [mark])
    (noEnd : mark ≠ '\n')
    (same : (enclosed opening closing level (entries.map text)).toList ++ rest =
      (enclosed opening closing level (entries'.map text)).toList ++ rest') :
    entries = entries' ∧ rest = rest' := by
  rw [toList_enclosed, toList_enclosed, List.append_assoc, List.append_assoc, List.map_map,
    List.map_map, closed] at same
  replace same := List.append_cancel_left same
  cases entries with
  | nil =>
    cases entries' with
    | nil => exact ⟨rfl, (List.cons.inj same).2⟩
    | cons entry' entries' =>
      rw [List.map_cons, toList_newline] at same
      exact absurd (List.cons.inj same).1 noEnd
  | cons entry entries =>
    obtain ⟨here, others⟩ := List.forall_mem_cons.mp each
    cases entries' with
    | nil =>
      rw [List.map_cons, toList_newline] at same
      exact absurd (List.cons.inj same).1.symm noEnd
    | cons entry' entries' =>
      rw [List.map_cons, List.map_cons] at same
      dsimp only at same
      rw [List.append_assoc, List.append_assoc, List.append_assoc, List.append_assoc] at same
      obtain ⟨rfl, behind⟩ := here entry' _ _ (closes_furtherChars _ _ _ _)
        (closes_furtherChars _ _ _ _) (List.append_cancel_left same)
      obtain ⟨rfl, after⟩ := furtherChars_append_inj others behind
      exact ⟨rfl, after⟩

end Collections

/-! ### Values -/

/-- The text of a member. -/
def memberText (level : Nat) (entry : String × Json) : String :=
  quoted entry.1 ++ ": " ++ prettyAt level entry.2

theorem prettyItems_eq (level : Nat) (items : List Json) :
    prettyItems level items = items.map (prettyAt level) := by
  induction items with
  | nil => rfl
  | cons item rest inductionHypothesis => rw [prettyItems, inductionHypothesis, List.map_cons]

theorem prettyMembers_eq (level : Nat) (members : List (String × Json)) :
    prettyMembers level members = members.map (memberText level) := by
  induction members with
  | nil => rfl
  | cons entry rest inductionHypothesis =>
    obtain ⟨key, value⟩ := entry
    rw [prettyMembers, inductionHypothesis, List.map_cons, memberText]

theorem cutsOff_memberText {level : Nat} {entry : String × Json}
    (inside : CutsOff (prettyAt level) entry.2) : CutsOff (memberText level) entry := by
  intro other rest rest' closes closes' same
  obtain ⟨key, value⟩ := entry
  obtain ⟨key', value'⟩ := other
  rw [memberText, memberText, String.toList_append, String.toList_append, String.toList_append,
    String.toList_append] at same
  simp only [List.append_assoc] at same
  obtain ⟨rfl, behind⟩ := quoted_append_inj same
  obtain ⟨rfl, after⟩ := inside value' rest rest' closes closes' (List.append_cancel_left behind)
  exact ⟨rfl, after⟩

/-- The kinds of values that are told apart by their first characters. -/
def kind : Json → Nat
  | .number _ => 0
  | .null => 1
  | .bool _ => 2
  | .string _ => 3
  | .array _ => 4
  | .object _ => 5

/-- The kind of a value by its first character. -/
def kindOf : Char → Nat
  | 'n' => 1
  | 't' | 'f' => 2
  | '"' => 3
  | '[' => 4
  | '\x7b' => 5
  | _ => 0

/-- The characters of a truth value. -/
def boolChars : Bool → List Char
  | true => ['t', 'r', 'u', 'e']
  | false => ['f', 'a', 'l', 's', 'e']

theorem toList_prettyAt_bool (level : Nat) (value : Bool) :
    (prettyAt level (.bool value)).toList = boolChars value := by
  cases value with
  | true =>
    have shown : prettyAt level (.bool true) = "true" := rfl
    rw [shown]
    decide
  | false =>
    have shown : prettyAt level (.bool false) = "false" := rfl
    rw [shown]
    decide

theorem kindOf_head (level : Nat) (value : Json) :
    ∃ char rest, (prettyAt level value).toList = char :: rest ∧ kindOf char = value.kind := by
  cases value with
  | null =>
    have shown : prettyAt level .null = "null" := rfl
    rw [shown]
    exact ⟨'n', ['u', 'l', 'l'], by decide, rfl⟩
  | bool value =>
    rw [toList_prettyAt_bool]
    cases value with
    | true => exact ⟨'t', _, rfl, rfl⟩
    | false => exact ⟨'f', _, rfl, rfl⟩
  | number numeral =>
    have digits : ∀ digit : Digit, kindOf digit.toChar = 0 := by decide
    have shown : prettyAt level (.number numeral) = numeral.text := rfl
    obtain ⟨digit, others, whole⟩ := List.exists_cons_of_ne_nil (Digit.ofNat_ne_nil numeral.whole)
    rw [shown, Numeral.toList_text, whole]
    cases numeral.negative with
    | true => exact ⟨'-', _, rfl, rfl⟩
    | false => exact ⟨digit.toChar, _, rfl, digits digit⟩
  | string text => exact ⟨'"', _, toList_quoted text, rfl⟩
  | array items =>
    rw [prettyAt, toList_enclosed]
    exact ⟨'[', _, rfl, rfl⟩
  | object members =>
    rw [prettyAt, toList_enclosed]
    exact ⟨'\x7b', _, rfl, rfl⟩

/-- Different kinds of values are not printed alike, whatever follows. -/
theorem kind_of_append {level : Nat} {first second : Json} {rest rest' : List Char}
    (same : (prettyAt level first).toList ++ rest = (prettyAt level second).toList ++ rest') :
    first.kind = second.kind := by
  obtain ⟨char, behind, shown, here⟩ := kindOf_head level first
  obtain ⟨char', behind', shown', here'⟩ := kindOf_head level second
  rw [shown, shown'] at same
  rw [← here, ← here', (List.cons.inj same).1]

/-- A value is cut off from what follows by the characters of its own kind. -/
theorem cutsOff_prettyAt (value : Json) (level : Nat) : CutsOff (prettyAt level) value := by
  induction value generalizing level with
  | null =>
    intro other rest rest' closes closes' same
    have kinds := kind_of_append same
    cases other with
    | null => exact ⟨rfl, List.append_cancel_left same⟩
    | _ => cases kinds
  | bool value =>
    intro other rest rest' closes closes' same
    have kinds := kind_of_append same
    cases other with
    | bool value' =>
      rw [toList_prettyAt_bool, toList_prettyAt_bool] at same
      obtain rfl : value = value' := by
        cases value <;> cases value' <;> first | rfl | cases (List.cons.inj same).1
      exact ⟨rfl, List.append_cancel_left same⟩
    | _ => cases kinds
  | number numeral =>
    intro other rest rest' closes closes' same
    have kinds := kind_of_append same
    cases other with
    | number numeral' =>
      obtain ⟨rfl, behind⟩ := Numeral.text_append_inj closes closes' same
      exact ⟨rfl, behind⟩
    | _ => cases kinds
  | string text =>
    intro other rest rest' closes closes' same
    have kinds := kind_of_append same
    cases other with
    | string text' =>
      obtain ⟨rfl, behind⟩ := quoted_append_inj same
      exact ⟨rfl, behind⟩
    | _ => cases kinds
  | array items each =>
    intro other rest rest' closes closes' same
    have kinds := kind_of_append same
    cases other with
    | array items' =>
      rw [prettyAt, prettyAt, prettyItems_eq, prettyItems_eq] at same
      have cutsOff : ∀ item ∈ items, CutsOff (prettyAt (level + 1)) item :=
        fun item member => each item member (level + 1)
      have closed : "]".toList = [']'] := by decide
      obtain ⟨rfl, behind⟩ := enclosed_append_inj cutsOff closed (by decide) same
      exact ⟨rfl, behind⟩
    | _ => cases kinds
  | object members each =>
    intro other rest rest' closes closes' same
    have kinds := kind_of_append same
    cases other with
    | object members' =>
      rw [prettyAt, prettyAt, prettyMembers_eq, prettyMembers_eq] at same
      have cutsOff : ∀ entry ∈ members, CutsOff (memberText (level + 1)) entry :=
        fun entry member => cutsOff_memberText (each entry.1 entry.2 member (level + 1))
      have closed : "\x7d".toList = ['\x7d'] := by decide
      obtain ⟨rfl, behind⟩ := enclosed_append_inj cutsOff closed (by decide) same
      exact ⟨rfl, behind⟩
    | _ => cases kinds

/-- A value can be told from its text. -/
theorem pretty_injective : Function.Injective pretty := by
  intro first second same
  have chars : (prettyAt 0 first).toList ++ [] = (prettyAt 0 second).toList ++ [] := by
    rw [List.append_nil, List.append_nil]
    exact congrArg String.toList same
  exact (cutsOff_prettyAt first 0 second [] [] closes_nil closes_nil chars).1

end Json

end ConsumerContract
