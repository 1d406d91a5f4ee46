/-
This file says where names lead in a file tree and what the operations on it change. The
location of a name depends on the working directory alone; whether one gets there depends
on the directories on the way. So names lead to the same places in trees with the same
directories, and wherever a name leads it still leads when more directories and files have
been made. Each operation that succeeds changes the entry of one location.
-/

import ConsumerContract.Files.Tree
import ConsumerContract.Proofs.FileNames
import ConsumerContract.Proofs.Compiled

namespace ConsumerContract

namespace FileTree

open FileName (named components)

variable {tree before after : FileTree} {location : FileLocation} {name : String}

/-! ### Entries -/

theorem lookup_filter_of_ne {other : FileLocation} (apart : other ≠ location)
    (entries : List (FileLocation × FileEntry)) :
    (entries.filter (·.1 ≠ location)).lookup other = entries.lookup other := by
  induction entries with
  | nil => rfl
  | cons entry rest inductionHypothesis =>
    rw [List.filter_cons]
    split
    · rw [List.lookup_cons, List.lookup_cons, inductionHypothesis]
    · rename_i removed
      have here : entry.1 = location := by simpa using removed
      rw [inductionHypothesis, List.lookup_cons, here, beq_false_of_ne apart]

theorem entry?_set_self (inner : location ≠ []) (entry : FileEntry) :
    FileTree.entry? (tree.set location entry) location = some entry := by
  have none : (tree.entries.filter (·.1 ≠ location)).lookup location = none := by
    refine List.lookup_eq_none_iff.mpr fun other member => ?_
    exact bne_iff_ne.mpr (Ne.symm (of_decide_eq_true (List.mem_filter.mp member).2))
  rw [ FileTree.entry?, if_neg inner, set]
  dsimp only
  rw [List.lookup_append, none, List.lookup_cons, beq_self_eq_true]
  rfl

theorem entry?_set_of_ne {other : FileLocation} (apart : other ≠ location) (entry : FileEntry) :
    FileTree.entry? (tree.set location entry) other = tree.entry? other := by
  rw [ FileTree.entry?, FileTree.entry?, set]
  dsimp only
  rw [List.lookup_append, lookup_filter_of_ne apart, List.lookup_cons, beq_false_of_ne apart]
  split
  · rfl
  · exact Option.or_none

theorem entry?_root : tree.entry? [] = some .directory :=
  if_pos rfl

/-! ### Walks -/

theorem enter_eq_ok : tree.enter location = .ok () ↔ tree.entry? location = some .directory := by
  unfold enter
  split <;> simp_all

theorem walk_cons {names : List String} {target : FileLocation} :
    tree.walk location (name :: names) = .ok target ↔
      tree.entry? location = some .directory ∧ name.utf8ByteSize ≤ longestName ∧
        tree.walk (step location name) names = .ok target := by
  rw [walk, bind_eq_ok, ← enter_eq_ok]
  constructor
  · rintro ⟨_, entered, rest⟩
    split at rest
    · cases rest
    · rename_i short
      exact ⟨entered, Nat.not_lt.mp short, rest⟩
  · rintro ⟨entered, short, rest⟩
    refine ⟨(), entered, ?_⟩
    rw [if_neg (Nat.not_lt.mpr short)]
    exact rest

theorem walk_append {first others : List String} {target : FileLocation} :
    tree.walk location (first ++ others) = .ok target ↔
      ∃ middle, tree.walk location first = .ok middle ∧ tree.walk middle others = .ok target := by
  induction first generalizing location with
  | nil => simp [walk]
  | cons name rest inductionHypothesis =>
    rw [List.cons_append, walk_cons, inductionHypothesis]
    constructor
    · rintro ⟨here, short, middle, front, behind⟩
      exact ⟨middle, walk_cons.mpr ⟨here, short, front⟩, behind⟩
    · rintro ⟨middle, front, behind⟩
      obtain ⟨here, short, front⟩ := walk_cons.mp front
      exact ⟨here, short, middle, front, behind⟩

theorem eq_foldl_of_walk {names : List String} {target : FileLocation}
    (walked : tree.walk location names = .ok target) : target = names.foldl step location := by
  induction names generalizing location with
  | nil => exact (Except.ok.inj walked).symm
  | cons name rest inductionHypothesis =>
    exact inductionHypothesis (walk_cons.mp walked).2.2

/-- Where names go on, there is a directory. -/
theorem directory_of_walk_append {first others : List String} {target : FileLocation}
    (walked : tree.walk location (first ++ others) = .ok target) (further : others ≠ []) :
    tree.walk location first = .ok (first.foldl step location) ∧
      tree.entry? (first.foldl step location) = some .directory := by
  obtain ⟨middle, front, behind⟩ := walk_append.mp walked
  obtain ⟨next, rest, rfl⟩ := List.exists_cons_of_ne_nil further
  obtain rfl := eq_foldl_of_walk front
  exact ⟨front, (walk_cons.mp behind).1⟩

/-- The walk is possible in a tree with at least the same directories. -/
theorem walk_of_directories {names : List String} {target : FileLocation}
    (kept : ∀ place, before.entry? place = some .directory → after.entry? place = some .directory)
    (walked : before.walk location names = .ok target) :
    after.walk location names = .ok target := by
  induction names generalizing location with
  | nil => exact walked
  | cons name rest inductionHypothesis =>
    obtain ⟨here, short, behind⟩ := walk_cons.mp walked
    exact walk_cons.mpr ⟨kept location here, short, inductionHypothesis behind⟩

/-! ### Locations of names -/

theorem checkName_eq_ok : checkName name = .ok () ↔
    '\x00' ∉ name.toList ∧ name ≠ "" ∧ name.utf8ByteSize ≤ longestPath := by
  unfold checkName
  split
  · rename_i inside
    exact iff_of_false nofun fun ⟨plain, _⟩ => plain (List.contains_iff_mem.mp inside)
  · rename_i plain
    have plain : '\x00' ∉ name.toList := fun inside => plain (List.contains_iff_mem.mpr inside)
    split
    · rename_i empty
      exact iff_of_false nofun fun ⟨_, nonempty, _⟩ => nonempty empty
    · rename_i nonempty
      split
      · rename_i long
        exact iff_of_false nofun fun ⟨_, _, short⟩ => absurd long (Nat.not_lt.mpr short)
      · rename_i short
        exact iff_of_true rfl ⟨plain, nonempty, Nat.not_lt.mp short⟩

/-- The location that a name stands for. -/
def target (tree : FileTree) (name : String) : FileLocation :=
  (components name).foldl step (tree.origin name)

/-- The location of the name can be reached. -/
def Reaches (tree : FileTree) (name : String) : Prop :=
  tree.locate name = .ok (tree.target name)

theorem origin_eq (same : after.workingDirectory = before.workingDirectory) (name : String) :
    after.origin name = before.origin name := by
  rw [origin, origin, same]

theorem target_eq (same : after.workingDirectory = before.workingDirectory) (name : String) :
    after.target name = before.target name := by
  rw [target, target, origin_eq same]

/-- A point behind a slash changes nothing. -/
theorem target_eq_named (tree : FileTree) (name : String) :
    tree.target name = (named name.toList).foldl step (tree.origin name) := by
  rw [target, FileName.components_eq, List.foldl_append]
  split <;> rfl

/-- A name inside a directory leads on from there. -/
theorem target_join (tree : FileTree) (directory : String)
    (relative : FileName.isAbsolute name = false) :
    tree.target (FileName.join directory name) =
      (named name.toList).foldl step (tree.target directory) := by
  have start : tree.origin (FileName.join directory name) = tree.origin directory := by
    by_cases empty : directory = ""
    · subst empty
      have alone : FileName.join "" name = name := if_pos (Or.inr rfl)
      rw [alone, origin, relative]
      rfl
    · rw [origin, FileName.isAbsolute_join empty relative, origin]
  rw [target_eq_named, target_eq_named, FileName.named_join directory relative,
    List.foldl_append, start]

theorem target_join_of_absolute (tree : FileTree) (directory : String)
    (absolute : FileName.isAbsolute name = true) :
    tree.target (FileName.join directory name) = (named name.toList).foldl step [] := by
  rw [FileName.join_of_absolute directory absolute, target_eq_named, origin, if_pos absolute]

theorem reaches_iff :
    tree.Reaches name ↔ checkName name = .ok () ∧
      tree.walk (tree.origin name) (components name) = .ok (tree.target name) := by
  rw [Reaches, locate, bind_eq_ok]
  constructor
  · rintro ⟨_, checked, walked⟩
    exact ⟨checked, walked⟩
  · rintro ⟨checked, walked⟩
    exact ⟨(), checked, walked⟩

theorem locate_eq_ok :
    tree.locate name = .ok location ↔ tree.Reaches name ∧ location = tree.target name := by
  constructor
  · intro located
    obtain ⟨_, _, walked⟩ := bind_eq_ok.mp located
    obtain rfl := eq_foldl_of_walk walked
    exact ⟨located, rfl⟩
  · rintro ⟨reaches, rfl⟩
    exact reaches

theorem find_eq_ok {entry : FileEntry} :
    tree.find name = .ok (location, entry) ↔
      tree.Reaches name ∧ location = tree.target name ∧
        tree.entry? (tree.target name) = some entry := by
  rw [find, bind_eq_ok]
  constructor
  · rintro ⟨place, located, found⟩
    obtain ⟨reaches, rfl⟩ := locate_eq_ok.mp located
    split at found
    · rename_i here
      cases found
      exact ⟨reaches, rfl, here⟩
    · cases found
  · rintro ⟨reaches, rfl, here⟩
    refine ⟨_, reaches, ?_⟩
    rw [here]

theorem read_eq_ok {content : ByteArray} :
    tree.read name = .ok content ↔
      tree.Reaches name ∧ tree.entry? (tree.target name) = some (.file content) := by
  rw [read, bind_eq_ok]
  constructor
  · rintro ⟨⟨place, entry⟩, found, content'⟩
    obtain ⟨reaches, rfl, here⟩ := find_eq_ok.mp found
    cases entry with
    | directory => cases content'
    | file bytes =>
      cases content'
      exact ⟨reaches, here⟩
  · rintro ⟨reaches, here⟩
    exact ⟨_, find_eq_ok.mpr ⟨reaches, rfl, here⟩, rfl⟩

theorem isDirectory_iff :
    tree.isDirectory name = true ↔
      tree.Reaches name ∧ tree.entry? (tree.target name) = some .directory := by
  unfold isDirectory
  split
  · rename_i found
    obtain ⟨reaches, _, here⟩ := find_eq_ok.mp found
    exact iff_of_true rfl ⟨reaches, here⟩
  · rename_i other
    refine iff_of_false Bool.false_ne_true fun ⟨reaches, here⟩ => ?_
    exact other _ (find_eq_ok.mpr ⟨reaches, rfl, here⟩)

/-! ### Trees that grow -/

/-- The later tree has all directories of the earlier one. -/
structure Grows (before after : FileTree) : Prop where
  workingDirectory : after.workingDirectory = before.workingDirectory
  directory : ∀ place, before.entry? place = some .directory →
    after.entry? place = some .directory

namespace Grows

theorem refl (tree : FileTree) : tree.Grows tree :=
  ⟨rfl, fun _ here => here⟩

theorem trans {middle : FileTree} (first : before.Grows middle) (second : middle.Grows after) :
    before.Grows after :=
  ⟨second.workingDirectory.trans first.workingDirectory,
    fun place here => second.directory place (first.directory place here)⟩

theorem target (grows : before.Grows after) (name : String) :
    after.target name = before.target name :=
  target_eq grows.workingDirectory name

theorem reaches (grows : before.Grows after) (reaches : before.Reaches name) :
    after.Reaches name := by
  obtain ⟨checked, walked⟩ := reaches_iff.mp reaches
  rw [reaches_iff, origin_eq grows.workingDirectory, grows.target]
  exact ⟨checked, walk_of_directories grows.directory walked⟩

theorem isDirectory (grows : before.Grows after) (here : before.isDirectory name = true) :
    after.isDirectory name = true := by
  obtain ⟨reaches, here⟩ := isDirectory_iff.mp here
  rw [isDirectory_iff, grows.target]
  exact ⟨grows.reaches reaches, grows.directory _ here⟩

end Grows

/-- What was written to a location last. -/
def lastWritten (writes : List (FileLocation × ByteArray)) (place : FileLocation) :
    Option ByteArray :=
  writes.reverse.lookup place

theorem lastWritten_append (first second : List (FileLocation × ByteArray))
    (place : FileLocation) :
    lastWritten (first ++ second) place =
      (lastWritten second place).or (lastWritten first place) := by
  rw [lastWritten, List.reverse_append, List.lookup_append]
  rfl

theorem lastWritten_singleton_self (content : ByteArray) :
    lastWritten [(location, content)] location = some content := by
  rw [lastWritten, List.reverse_singleton, List.lookup_cons, beq_self_eq_true]

theorem lastWritten_singleton_of_ne {other : FileLocation} (apart : other ≠ location)
    (content : ByteArray) : lastWritten [(location, content)] other = none := by
  rw [lastWritten, List.reverse_singleton, List.lookup_cons, beq_false_of_ne apart,
    List.lookup_nil]

theorem exists_lastWritten {writes : List (FileLocation × ByteArray)} {content : ByteArray}
    (member : (location, content) ∈ writes) :
    ∃ last, lastWritten writes location = some last ∧ (location, last) ∈ writes := by
  cases found : lastWritten writes location with
  | none =>
    have apart := List.lookup_eq_none_iff.mp found _ (List.mem_reverse.mpr member)
    exact absurd rfl (bne_iff_ne.mp apart)
  | some last =>
    obtain ⟨behind, front, written, _⟩ := List.lookup_eq_some_iff.mp found
    refine ⟨last, rfl, List.mem_reverse.mp ?_⟩
    rw [written]
    exact List.mem_append_right _ List.mem_cons_self

/-- From the one tree to the other, directories have been made and these files have been written
in this order, and nothing else has happened. -/
structure Writes (before after : FileTree) (writes : List (FileLocation × ByteArray)) : Prop where
  workingDirectory : after.workingDirectory = before.workingDirectory
  written : ∀ place content, lastWritten writes place = some content →
    after.entry? place = some (.file content) ∧ before.entry? place ≠ some .directory
  kept : ∀ place, lastWritten writes place = none →
    after.entry? place = before.entry? place ∨
      before.entry? place = none ∧ after.entry? place = some .directory

namespace Writes

variable {writes : List (FileLocation × ByteArray)}

theorem refl (tree : FileTree) : tree.Writes tree [] :=
  ⟨rfl, nofun, fun _ _ => Or.inl rfl⟩

theorem grows (changes : before.Writes after writes) : before.Grows after := by
  refine ⟨changes.workingDirectory, fun place here => ?_⟩
  cases last : lastWritten writes place with
  | some content => exact absurd here (changes.written place content last).2
  | none =>
    rcases changes.kept place last with kept | ⟨absent, _⟩
    · exact kept.trans here
    · rw [absent] at here
      cases here

theorem trans {middle : FileTree} {others : List (FileLocation × ByteArray)}
    (first : before.Writes middle writes) (second : middle.Writes after others) :
    before.Writes after (writes ++ others) := by
  refine ⟨second.workingDirectory.trans first.workingDirectory, fun place content last => ?_,
    fun place last => ?_⟩
  · rw [lastWritten_append] at last
    cases later : lastWritten others place with
    | some written =>
      rw [later] at last
      obtain rfl := Option.some.inj last
      obtain ⟨here, before'⟩ := second.written place _ later
      exact ⟨here, fun directory => before' (first.grows.directory place directory)⟩
    | none =>
      rw [later] at last
      obtain ⟨here, before'⟩ := first.written place content last
      rcases second.kept place later with kept | ⟨absent, _⟩
      · exact ⟨kept.trans here, before'⟩
      · rw [here] at absent
        cases absent
  · rw [lastWritten_append, Option.or_eq_none_iff] at last
    rcases second.kept place last.1 with kept | ⟨absent, made⟩
    · rw [kept]
      exact first.kept place last.2
    · rcases first.kept place last.2 with kept | ⟨_, made'⟩
      · exact Or.inr ⟨kept.symm.trans absent, made⟩
      · rw [made'] at absent
        cases absent

/-- A file that is not written keeps its content. -/
theorem file (changes : before.Writes after writes) {place : FileLocation} {content : ByteArray}
    (here : before.entry? place = some (.file content)) (spared : lastWritten writes place = none) :
    after.entry? place = some (.file content) := by
  rcases changes.kept place spared with kept | ⟨absent, _⟩
  · exact kept.trans here
  · rw [here] at absent
    cases absent

/-- A file to whose place nothing has been written can be read as before. -/
theorem read (changes : before.Writes after writes)
    (spared : ∀ entry ∈ writes, entry.1 ≠ before.target name) {content : ByteArray}
    (read : before.read name = .ok content) : after.read name = .ok content := by
  obtain ⟨reaches, here⟩ := read_eq_ok.mp read
  have unwritten : lastWritten writes (before.target name) = none :=
    List.lookup_eq_none_iff.mpr fun entry member =>
      bne_iff_ne.mpr (spared entry (List.mem_reverse.mp member)).symm
  refine read_eq_ok.mpr ⟨changes.grows.reaches reaches, ?_⟩
  rw [changes.grows.target]
  exact changes.file here unwritten

end Writes

/-! ### Making directories -/

theorem components_withoutSlashes (name : String) :
    components (withoutSlashes name) = named name.toList := by
  have cut : (withoutSlashes name).toList = name.toList.rdropWhile (· = '/') :=
    String.toList_ofList
  have whole : name.toList.rdropWhile (· = '/') ++ name.toList.rtakeWhile (· = '/') =
      name.toList := by
    rw [List.rdropWhile, List.rtakeWhile, ← List.reverse_append, List.takeWhile_append_dropWhile,
      List.reverse_reverse]
  have plain : (withoutSlashes name).toList.getLast? ≠ some '/' := by
    rw [cut]
    intro ends
    obtain ⟨front, written⟩ := List.getLast?_eq_some_iff.mp ends
    have last := List.rdropWhile_last_not (· = '/') name.toList (by rw [written]; simp)
    simp only [written, List.getLast_append_singleton] at last
    exact last rfl
  rw [FileName.components_of_plain_end plain, cut]
  conv_rhs => rw [← whole]
  refine (FileName.named_append_slashes _ fun char member => ?_).symm
  have slash := List.mem_rtakeWhile_imp member
  exact of_decide_eq_true slash

theorem newDirectory_eq_ok (made : tree.newDirectory name = .ok location) :
    checkName name = .ok () ∧ tree.walk (tree.origin name) (named name.toList) = .ok location ∧
      location = tree.target name ∧ tree.entry? location = none := by
  rw [newDirectory, components_withoutSlashes] at made
  obtain ⟨_, checked, made⟩ := bind_eq_ok.mp made
  obtain ⟨place, walked, made⟩ := bind_eq_ok.mp made
  split at made
  · cases made
  · cases made
  · cases made
  · split at made
    · cases made
    · rename_i absent
      cases made
      exact ⟨checked, walked, (eq_foldl_of_walk walked).trans (target_eq_named tree name).symm,
        absent⟩

theorem makeDirectory_eq_ok (made : tree.makeDirectory name = .ok after) :
    ∃ location, tree.newDirectory name = .ok location ∧ after = tree.set location .directory := by
  obtain ⟨location, new, made⟩ := bind_eq_ok.mp made
  exact ⟨location, new, (Except.ok.inj made).symm⟩

theorem writes_of_makeDirectory (made : tree.makeDirectory name = .ok after) :
    tree.Writes after [] := by
  obtain ⟨location, new, rfl⟩ := makeDirectory_eq_ok made
  obtain ⟨_, _, _, absent⟩ := newDirectory_eq_ok new
  refine ⟨rfl, nofun, fun place _ => ?_⟩
  by_cases here : place = location
  · subst here
    refine Or.inr ⟨absent, entry?_set_self ?_ _⟩
    rintro rfl
    cases absent
  · exact Or.inl (entry?_set_of_ne here _)

/-- A slash at the end of the name of a directory leads no further. -/
theorem reaches_of_directory (checked : checkName name = .ok ())
    (walked : tree.walk (tree.origin name) (named name.toList) = .ok (tree.target name))
    (here : tree.entry? (tree.target name) = some .directory) : tree.Reaches name := by
  refine reaches_iff.mpr ⟨checked, ?_⟩
  rw [FileName.components_eq, walk_append]
  refine ⟨_, walked, ?_⟩
  split
  · exact walk_cons.mpr ⟨here, by decide, rfl⟩
  · rfl

theorem isDirectory_of_makeDirectory (made : tree.makeDirectory name = .ok after) :
    after.isDirectory name = true := by
  have grows := (writes_of_makeDirectory made).grows
  obtain ⟨location, new, rfl⟩ := makeDirectory_eq_ok made
  obtain ⟨checked, walked, rfl, absent⟩ := newDirectory_eq_ok new
  have inner : tree.target name ≠ [] := by
    intro root
    rw [root] at absent
    cases absent
  have here : FileTree.entry? (tree.set (tree.target name) .directory)
      ((tree.set (tree.target name) .directory).target name) = some .directory := by
    rw [grows.target]
    exact entry?_set_self inner _
  refine isDirectory_iff.mpr ⟨reaches_of_directory checked ?_ here, here⟩
  rw [origin_eq grows.workingDirectory, grows.target]
  exact walk_of_directories grows.directory walked

theorem makeDirectory_of_isDirectory (here : tree.isDirectory name = true) :
    tree.makeDirectory name = .error .alreadyExists := by
  obtain ⟨reaches, here⟩ := isDirectory_iff.mp here
  obtain ⟨checked, walked⟩ := reaches_iff.mp reaches
  rw [FileName.components_eq] at walked
  obtain ⟨middle, walked, _⟩ := walk_append.mp walked
  obtain rfl := (eq_foldl_of_walk walked).trans (target_eq_named tree name).symm
  have taken : tree.newDirectory name = .error .alreadyExists := by
    rw [newDirectory, components_withoutSlashes, checked]
    simp only [bind, Except.bind, walked]
    split
    · rfl
    · rfl
    · rfl
    · rw [here]
  rw [makeDirectory, taken]
  rfl

/-! ### Writing files -/

theorem write_eq_ok {content : ByteArray} :
    tree.write name content = .ok after ↔
      tree.Reaches name ∧ tree.entry? (tree.target name) ≠ some .directory ∧
        after = tree.set (tree.target name) (.file content) := by
  rw [write, bind_eq_ok]
  constructor
  · rintro ⟨place, located, written⟩
    obtain ⟨reaches, rfl⟩ := locate_eq_ok.mp located
    split at written
    · cases written
    · rename_i other
      exact ⟨reaches, other, (Except.ok.inj written).symm⟩
  · rintro ⟨reaches, other, rfl⟩
    refine ⟨_, reaches, ?_⟩
    split
    · rename_i here
      exact absurd here other
    · rfl

theorem writes_of_write {content : ByteArray} (written : tree.write name content = .ok after) :
    tree.Writes after [(tree.target name, content)] := by
  obtain ⟨_, other, rfl⟩ := write_eq_ok.mp written
  have inner : tree.target name ≠ [] := by
    intro root
    rw [root] at other
    exact other entry?_root
  refine ⟨rfl, fun place bytes last => ?_, fun place last => ?_⟩
  · by_cases here : place = tree.target name
    · subst here
      rw [lastWritten_singleton_self] at last
      obtain rfl := Option.some.inj last
      exact ⟨entry?_set_self inner _, other⟩
    · rw [lastWritten_singleton_of_ne here] at last
      cases last
  · refine Or.inl (entry?_set_of_ne ?_ _)
    rintro rfl
    rw [lastWritten_singleton_self] at last
    cases last

end FileTree

end ConsumerContract
