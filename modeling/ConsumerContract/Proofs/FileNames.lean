/-
This file says how texts that name files are cut into parts. A cut at a slash cuts the list
of parts, so a name inside a directory has the parts of the directory and then its own, and
what stands in front of the last part that names something is the name of the directory.
Texts without a slash are one part, to which they add nothing but themselves.
-/

import Mathlib.Data.List.DropRight
import ConsumerContract.Files.FileName

namespace ConsumerContract.FileName

/-! ### Cutting at slashes -/

theorem parts_ne_nil (chars : List Char) : parts chars ≠ [] := by
  unfold parts
  split
  · exact List.cons_ne_nil _ _
  · split
    · exact List.cons_ne_nil _ _
    · split <;> exact List.cons_ne_nil _ _

theorem parts_cons_slash (chars : List Char) : parts ('/' :: chars) = [] :: parts chars := by
  rw [parts]
  split
  · rename_i none
    exact absurd none (parts_ne_nil chars)
  · rename_i some
    rw [if_pos rfl, some]

theorem parts_cons_of_ne {char : Char} (other : char ≠ '/') {chars part : List Char}
    {others : List (List Char)} (behind : parts chars = part :: others) :
    parts (char :: chars) = (char :: part) :: others := by
  rw [parts, behind]
  exact if_neg other

theorem parts_append_slash (front behind : List Char) :
    parts (front ++ '/' :: behind) = parts front ++ parts behind := by
  induction front with
  | nil => exact parts_cons_slash behind
  | cons char rest inductionHypothesis =>
    rw [List.cons_append]
    by_cases slash : char = '/'
    · subst slash
      rw [parts_cons_slash, parts_cons_slash, inductionHypothesis, List.cons_append]
    · obtain ⟨part, others, cut⟩ := List.exists_cons_of_ne_nil (parts_ne_nil rest)
      rw [parts_cons_of_ne slash cut]
      rw [cut, List.cons_append] at inductionHypothesis
      exact parts_cons_of_ne slash inductionHypothesis

theorem parts_of_plain {chars : List Char} (plain : '/' ∉ chars) : parts chars = [chars] := by
  induction chars with
  | nil => rfl
  | cons char rest inductionHypothesis =>
    obtain ⟨other, others⟩ := not_or.mp (mt List.mem_cons.mpr plain)
    exact parts_cons_of_ne (Ne.symm other) (inductionHypothesis others)

/-- What has no slash only makes the last part longer. -/
theorem parts_append_plain {tail : List Char} (plain : '/' ∉ tail) (chars : List Char) :
    ∃ front last, parts chars = front ++ [last] ∧
      parts (chars ++ tail) = front ++ [last ++ tail] := by
  induction chars with
  | nil => exact ⟨[], [], rfl, parts_of_plain plain⟩
  | cons char rest inductionHypothesis =>
    obtain ⟨front, last, cut, longer⟩ := inductionHypothesis
    rw [List.cons_append]
    by_cases slash : char = '/'
    · subst slash
      refine ⟨[] :: front, last, ?_, ?_⟩
      · rw [parts_cons_slash, cut, List.cons_append]
      · rw [parts_cons_slash, longer, List.cons_append]
    · cases front with
      | nil => exact ⟨[], char :: last, parts_cons_of_ne slash cut, parts_cons_of_ne slash longer⟩
      | cons part others =>
        exact ⟨(char :: part) :: others, last, parts_cons_of_ne slash cut,
          parts_cons_of_ne slash longer⟩

theorem not_mem_of_mem_parts {chars part : List Char} (member : part ∈ parts chars) :
    '/' ∉ part := by
  induction chars generalizing part with
  | nil =>
    rw [parts, List.mem_singleton] at member
    rw [member]
    exact List.not_mem_nil
  | cons char rest inductionHypothesis =>
    obtain ⟨first, others, cut⟩ := List.exists_cons_of_ne_nil (parts_ne_nil rest)
    rw [cut] at inductionHypothesis
    by_cases slash : char = '/'
    · subst slash
      rw [parts_cons_slash, cut] at member
      rcases List.mem_cons.mp member with rfl | member
      · exact List.not_mem_nil
      · exact inductionHypothesis member
    · rw [parts_cons_of_ne slash cut] at member
      rcases List.mem_cons.mp member with rfl | member
      · intro inside
        rcases List.mem_cons.mp inside with same | inside
        · exact slash same.symm
        · exact inductionHypothesis List.mem_cons_self inside
      · exact inductionHypothesis (List.mem_cons_of_mem _ member)

/-! ### Putting parts together -/

theorem toList_joined (parts : List (List Char)) :
    (joined parts).toList = ['/'].intercalate parts := by
  rw [joined, String.toList_intercalate, List.map_map]
  have same : String.toList ∘ String.ofList = id := funext fun chars => String.toList_ofList
  rw [same, List.map_id]
  rfl

theorem intercalate_append {front behind : List (List Char)} (some : front ≠ [])
    (rest : behind ≠ []) : ['/'].intercalate (front ++ behind) =
      ['/'].intercalate front ++ '/' :: ['/'].intercalate behind := by
  induction front with
  | nil => exact absurd rfl some
  | cons part others inductionHypothesis =>
    rw [List.cons_append]
    cases others with
    | nil =>
      rw [List.nil_append, List.intercalate_cons_of_ne_nil rest, List.append_assoc,
        List.intercalate_singleton]
      rfl
    | cons next others =>
      rw [List.cons_append, List.intercalate_cons_cons, List.intercalate_cons_cons,
        ← List.cons_append, inductionHypothesis (List.cons_ne_nil _ _), ← List.append_assoc]

theorem parts_intercalate {list : List (List Char)} (some : list ≠ [])
    (plain : ∀ part ∈ list, '/' ∉ part) : parts (['/'].intercalate list) = list := by
  induction list with
  | nil => exact absurd rfl some
  | cons part others inductionHypothesis =>
    obtain ⟨own, rest⟩ := List.forall_mem_cons.mp plain
    by_cases last : others = []
    · subst last
      rw [List.intercalate_singleton, parts_of_plain own]
    · rw [List.intercalate_cons_of_ne_nil last, List.append_assoc, List.singleton_append,
        parts_append_slash, parts_of_plain own, inductionHypothesis last rest]
      rfl

theorem intercalate_parts (chars : List Char) : ['/'].intercalate (parts chars) = chars := by
  induction chars with
  | nil => rfl
  | cons char rest inductionHypothesis =>
    obtain ⟨part, others, cut⟩ := List.exists_cons_of_ne_nil (parts_ne_nil rest)
    by_cases slash : char = '/'
    · subst slash
      rw [parts_cons_slash, List.intercalate_cons_of_ne_nil (parts_ne_nil rest),
        inductionHypothesis]
      rfl
    · rw [parts_cons_of_ne slash cut]
      rw [cut] at inductionHypothesis
      cases others with
      | nil =>
        rw [List.intercalate_singleton] at inductionHypothesis ⊢
        rw [inductionHypothesis]
      | cons next others =>
        rw [List.intercalate_cons_cons] at inductionHypothesis ⊢
        rw [List.cons_append, List.cons_append, inductionHypothesis]

/-! ### Names to go through -/

/-- The parts that are not empty. -/
def named (chars : List Char) : List String :=
  ((parts chars).filter (· ≠ [])).map String.ofList

theorem named_append_slash (front behind : List Char) :
    named (front ++ '/' :: behind) = named front ++ named behind := by
  rw [named, parts_append_slash, List.filter_append, List.map_append]
  rfl

theorem named_append_slashes (front : List Char) {slashes : List Char}
    (all : ∀ char ∈ slashes, char = '/') : named (front ++ slashes) = named front := by
  induction slashes generalizing front with
  | nil => rw [List.append_nil]
  | cons char rest inductionHypothesis =>
    obtain ⟨rfl, others⟩ := List.forall_mem_cons.mp all
    have none : named rest = [] := inductionHypothesis [] others
    rw [named_append_slash, none, List.append_nil]

theorem named_of_plain {chars : List Char} (plain : '/' ∉ chars) (some : chars ≠ []) :
    named chars = [String.ofList chars] := by
  rw [named, parts_of_plain plain, List.filter_cons_of_pos (by simpa using some), List.filter_nil,
    List.map_singleton]

/-- A last part that is not empty is the last name. -/
theorem named_of_parts {chars last : List Char} {front : List (List Char)}
    (cut : parts chars = front ++ [last]) (some : last ≠ []) :
    ∃ others, named chars = others ++ [String.ofList last] := by
  refine ⟨(front.filter (· ≠ [])).map String.ofList, ?_⟩
  rw [named, cut, List.filter_append, List.map_append,
    List.filter_cons_of_pos (by simpa using some), List.filter_nil, List.map_singleton]

theorem named_ne_nil_of_mem {chars part : List Char} (member : part ∈ parts chars)
    (some : part ≠ []) : named chars ≠ [] := by
  refine List.ne_nil_of_mem (a := String.ofList part) (List.mem_map_of_mem ?_)
  exact List.mem_filter.mpr ⟨member, decide_eq_true some⟩

theorem components_eq (name : String) :
    components name = named name.toList ++
      if name.toList.getLast? = some '/' then ["."] else [] := by
  rw [components]
  split
  · rfl
  · rw [List.append_nil]
    rfl

theorem components_of_plain_end {name : String} (plain : name.toList.getLast? ≠ some '/') :
    components name = named name.toList := by
  rw [components_eq, if_neg plain, List.append_nil]

/-- A name inside a directory goes through the directory first. -/
theorem named_join (directory : String) {name : String} (relative : isAbsolute name = false) :
    named (join directory name).toList = named directory.toList ++ named name.toList := by
  rw [join]
  split
  · rename_i alone
    rcases alone with absolute | rfl
    · rw [relative] at absolute
      cases absolute
    · rfl
  · split
    · rename_i ends
      obtain ⟨front, written⟩ := List.getLast?_eq_some_iff.mp ends
      rw [String.toList_append, written, List.append_assoc, List.singleton_append,
        named_append_slash, named_append_slash]
      exact congrArg (· ++ named name.toList) (List.append_nil _).symm
    · rw [String.toList_append, String.toList_append, List.append_assoc]
      exact named_append_slash directory.toList name.toList

theorem join_of_absolute (directory : String) {name : String} (absolute : isAbsolute name = true) :
    join directory name = name := by
  rw [join, if_pos (Or.inl absolute)]

theorem isAbsolute_join {directory : String} (some : directory ≠ "") {name : String}
    (relative : isAbsolute name = false) :
    isAbsolute (join directory name) = isAbsolute directory := by
  have first : directory.toList ≠ [] := fun none => some (String.toList_eq_nil_iff.mp none)
  obtain ⟨char, rest, written⟩ := List.exists_cons_of_ne_nil first
  rw [join, if_neg (not_or.mpr ⟨by rw [relative]; exact Bool.false_ne_true, some⟩)]
  split <;> simp [isAbsolute, written]

/-! ### Directories of names -/

/-- What is left out at the end names nothing, and what is kept ends with a part that does. -/
theorem trimmed_cons (first : List Char) (rest : List (List Char)) :
    ∃ kept silent, rest = kept ++ silent ∧ trimmed (first :: rest) = first :: kept ∧
      ∀ inner last, kept = inner ++ [last] → isSilent last = false := by
  refine ⟨rest.rdropWhile isSilent, rest.rtakeWhile isSilent, ?_, rfl, ?_⟩
  · rw [List.rdropWhile, List.rtakeWhile, ← List.reverse_append, List.takeWhile_append_dropWhile,
      List.reverse_reverse]
  · intro inner last kept
    have nonempty : rest.rdropWhile isSilent ≠ [] := by
      rw [kept]
      exact List.append_ne_nil_of_right_ne_nil inner (List.cons_ne_nil last [])
    have speaks := List.rdropWhile_last_not isSilent rest nonempty
    simp only [kept, List.getLast_append_singleton] at speaks
    exact Bool.eq_false_iff.mpr speaks

/-- The parts of a name in front of the last one that names something, and those from there on. -/
theorem parts_eq_of_parent? {name parent : String} (found : parent? name = some parent)
    (some : parent ≠ "") : ∃ front behind last, parts name.toList = front ++ behind ∧
      front ≠ [] ∧ last ∈ behind ∧ last ≠ [] ∧
        (front = [[]] ∧ parent = "/" ∨ parent = joined front) := by
  obtain ⟨first, rest, cut⟩ := List.exists_cons_of_ne_nil (parts_ne_nil name.toList)
  obtain ⟨kept, silent, whole, trim, speaks⟩ := trimmed_cons first rest
  rw [parent?, cut, trim] at found
  rcases List.eq_nil_or_concat' kept with rfl | ⟨inner, last, rfl⟩
  · -- Without a second part there is no directory to name.
    split at found
    · cases found
    · cases found
    · exact absurd (Option.some.inj found).symm some
    · rename_i several
      exact absurd rfl (several first)
  · obtain ⟨outer, quiet, between, trimInner, _⟩ := trimmed_cons first inner
    have dropped : (first :: (inner ++ [last])).dropLast = first :: inner := by
      rw [← List.cons_append, List.dropLast_concat]
    have spoken : last ≠ [] := by
      rintro rfl
      exact Bool.noConfusion (speaks inner [] rfl)
    refine ⟨first :: outer, quiet ++ [last] ++ silent, last, ?_, List.cons_ne_nil _ _, ?_, spoken,
      ?_⟩
    · rw [cut, whole, between, List.cons_append, List.append_assoc, List.append_assoc,
        List.append_assoc]
    · exact List.mem_append_left _ (List.mem_append_right _ List.mem_cons_self)
    · split at found
      · rename_i none
        cases none
      · rename_i none
        cases inner <;> cases none
      · rename_i one
        cases inner <;> cases one
      · rw [dropped, trimInner] at found
        split at found
        · rename_i root
          exact Or.inl ⟨root, (Option.some.inj found).symm⟩
        · exact Or.inr (Option.some.inj found).symm

/-- The directory of a name is written in front of it, and the name goes on from there. -/
theorem prefix_of_parent? {name parent : String} (found : parent? name = some parent)
    (some : parent ≠ "") : parent.toList <+: name.toList ∧
      isAbsolute parent = isAbsolute name ∧
        ∃ more, more ≠ [] ∧ named name.toList = named parent.toList ++ more := by
  obtain ⟨front, behind, last, cut, nonempty, member, spoken, written⟩ :=
    parts_eq_of_parent? found some
  have rest : behind ≠ [] := List.ne_nil_of_mem member
  have plain : ∀ part ∈ parts name.toList, '/' ∉ part :=
    fun part inside => not_mem_of_mem_parts inside
  rw [cut] at plain
  obtain ⟨plainFront, plainBehind⟩ := List.forall_mem_append.mp plain
  have whole : name.toList = ['/'].intercalate front ++ '/' :: ['/'].intercalate behind := by
    rw [← intercalate_append nonempty rest, ← cut, intercalate_parts]
  have more : named (['/'].intercalate behind) ≠ [] := by
    refine named_ne_nil_of_mem ?_ spoken
    rw [parts_intercalate rest plainBehind]
    exact member
  rcases written with ⟨rfl, rfl⟩ | rfl
  · rw [List.intercalate_singleton, List.nil_append] at whole
    refine ⟨⟨_, whole.symm⟩, ?_, _, more, ?_⟩
    · rw [isAbsolute, isAbsolute, whole]
      rfl
    · rw [whole]
      exact named_append_slash [] _
  · rw [toList_joined]
    refine ⟨⟨_, whole.symm⟩, ?_, _, more, ?_⟩
    · have first : ['/'].intercalate front ≠ [] := by
        rw [← toList_joined]
        exact fun none => some (String.toList_eq_nil_iff.mp none)
      obtain ⟨char, others, starts⟩ := List.exists_cons_of_ne_nil first
      rw [isAbsolute, isAbsolute, toList_joined, whole, starts]
      rfl
    · rw [whole]
      exact named_append_slash _ _

end ConsumerContract.FileName
