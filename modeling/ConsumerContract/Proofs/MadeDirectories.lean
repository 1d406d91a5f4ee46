/-
This file says what it means to make a directory together with those around it. Directories
are added and nothing else changes. If it succeeds the directory is there, and from then on
it succeeds without changing anything. If it is refused it is refused ever after, although
some of the outer directories may have been made: what is missing then can not be made, and
a name leads to a directory only through the directory in front of it.
-/

import ConsumerContract.Proofs.FileTrees

namespace ConsumerContract

/-- A step with a known outcome, and what follows. -/
theorem run_bind {σ α β : Type} {first : StateM σ α} {next : α → StateM σ β} {before after : σ}
    {value : α} (ran : first before = (value, after)) :
    (first >>= next) before = next value after := by
  have unfolded : (first >>= next) before = next (first before).1 (first before).2 := rfl
  rw [unfolded, ran]

namespace FileTree

open FileName (named parent?)

variable {tree made after : FileTree} {name parent : String} {outer : List String}
  {fault : FileFault}

/-! ### One directory -/

theorem run_makeDirectory_of_ok (done : tree.makeDirectory name = .ok made) :
    disk.makeDirectory name tree = (.ok (), made) := by
  have unfolded : disk.makeDirectory name tree = update (·.makeDirectory name) tree := rfl
  rw [unfolded, update, done]

theorem run_makeDirectory_of_error (failed : tree.makeDirectory name = .error fault) :
    disk.makeDirectory name tree = (.error fault, tree) := by
  have unfolded : disk.makeDirectory name tree = update (·.makeDirectory name) tree := rfl
  rw [unfolded, update, failed]

theorem unlessDirectory_eq (fault : FileFault) :
    disk.unlessDirectory name fault tree =
      (if tree.isDirectory name then .ok () else .error fault, tree) := by
  have asked : disk.isDirectory name tree = (tree.isDirectory name, tree) := rfl
  rw [Disk.unlessDirectory, run_bind asked]
  split <;> rfl

/-! ### A directory and those around it -/

theorem makeLineage_of_made (nonempty : name ≠ "") (done : tree.makeDirectory name = .ok made) :
    disk.makeLineage (name :: outer) tree = (.ok (), made) := by
  rw [Disk.makeLineage, if_neg nonempty, run_bind (run_makeDirectory_of_ok done)]
  rfl

theorem makeLineage_of_refused (nonempty : name ≠ "")
    (failed : tree.makeDirectory name = .error fault) (present : fault ≠ .notFound) :
    disk.makeLineage (name :: outer) tree =
      (if tree.isDirectory name then .ok () else .error fault, tree) := by
  rw [Disk.makeLineage, if_neg nonempty, run_bind (run_makeDirectory_of_error failed)]
  cases fault with
  | notFound => exact absurd rfl present
  | _ => exact unlessDirectory_eq _

theorem makeLineage_of_outer_refused (nonempty : name ≠ "")
    (missing : tree.makeDirectory name = .error .notFound)
    (refused : disk.makeLineage outer tree = (.error fault, after)) :
    disk.makeLineage (name :: outer) tree = (.error fault, after) := by
  rw [Disk.makeLineage, if_neg nonempty, run_bind (run_makeDirectory_of_error missing)]
  dsimp only
  rw [run_bind refused]
  rfl

theorem makeLineage_of_outer_made (nonempty : name ≠ "")
    (missing : tree.makeDirectory name = .error .notFound)
    (around : disk.makeLineage outer tree = (.ok (), made)) :
    disk.makeLineage (name :: outer) tree =
      match made.makeDirectory name with
      | .ok whole => (.ok (), whole)
      | .error fault => (if made.isDirectory name then .ok () else .error fault, made) := by
  rw [Disk.makeLineage, if_neg nonempty, run_bind (run_makeDirectory_of_error missing)]
  dsimp only
  rw [run_bind around]
  cases again : made.makeDirectory name with
  | ok whole =>
    dsimp only
    rw [run_bind (run_makeDirectory_of_ok again)]
    rfl
  | error fault =>
    dsimp only
    rw [run_bind (run_makeDirectory_of_error again)]
    exact unlessDirectory_eq _

/-- How the run for a directory ends, by what becomes of the directory itself. -/
inductive Lineage (name : String) (outer : List String) (tree : FileTree) :
    Except FileFault Unit → FileTree → Prop
  | made {after : FileTree} (done : tree.makeDirectory name = .ok after) :
      Lineage name outer tree (.ok ()) after
  | present (here : tree.isDirectory name = true) : Lineage name outer tree (.ok ()) tree
  | refused {fault : FileFault} (failed : tree.makeDirectory name = .error fault)
      (other : fault ≠ .notFound) (absent : tree.isDirectory name = false) :
      Lineage name outer tree (.error fault) tree
  | outerRefused {fault : FileFault} {after : FileTree}
      (missing : tree.makeDirectory name = .error .notFound)
      (around : disk.makeLineage outer tree = (.error fault, after)) :
      Lineage name outer tree (.error fault) after
  | madeInside {middle after : FileTree} (missing : tree.makeDirectory name = .error .notFound)
      (around : disk.makeLineage outer tree = (.ok (), middle))
      (done : middle.makeDirectory name = .ok after) : Lineage name outer tree (.ok ()) after
  | presentInside {middle : FileTree} (missing : tree.makeDirectory name = .error .notFound)
      (around : disk.makeLineage outer tree = (.ok (), middle))
      (here : middle.isDirectory name = true) : Lineage name outer tree (.ok ()) middle
  | refusedInside {fault : FileFault} {middle : FileTree}
      (missing : tree.makeDirectory name = .error .notFound)
      (around : disk.makeLineage outer tree = (.ok (), middle))
      (failed : middle.makeDirectory name = .error fault)
      (absent : middle.isDirectory name = false) : Lineage name outer tree (.error fault) middle

theorem lineage_of_makeLineage (nonempty : name ≠ "") {outcome : Except FileFault Unit}
    (ran : disk.makeLineage (name :: outer) tree = (outcome, after)) :
    Lineage name outer tree outcome after := by
  cases first : tree.makeDirectory name with
  | ok made =>
    rw [makeLineage_of_made nonempty first] at ran
    cases ran
    exact .made first
  | error fault =>
    by_cases missing : fault = .notFound
    · subst missing
      rcases around : disk.makeLineage outer tree with ⟨refused | ⟨⟨⟩⟩, middle⟩
      · rw [makeLineage_of_outer_refused nonempty first around] at ran
        cases ran
        exact .outerRefused first around
      · rw [makeLineage_of_outer_made nonempty first around] at ran
        cases again : middle.makeDirectory name with
        | ok whole =>
          rw [again] at ran
          cases ran
          exact .madeInside first around again
        | error fault =>
          rw [again] at ran
          cases here : middle.isDirectory name with
          | true =>
            rw [here] at ran
            cases ran
            exact .presentInside first around here
          | false =>
            rw [here] at ran
            cases ran
            exact .refusedInside first around again here
    · rw [makeLineage_of_refused nonempty first missing] at ran
      cases here : tree.isDirectory name with
      | true =>
        rw [here] at ran
        cases ran
        exact .present here
      | false =>
        rw [here] at ran
        cases ran
        exact .refused first missing here

theorem makeLineage_of_isDirectory (nonempty : name ≠ "") (here : tree.isDirectory name = true) :
    disk.makeLineage (name :: outer) tree = (.ok (), tree) := by
  rw [makeLineage_of_refused nonempty (makeDirectory_of_isDirectory here) nofun, if_pos here]

theorem makeLineage_empty (outer : List String) (tree : FileTree) :
    disk.makeLineage ("" :: outer) tree = (.ok (), tree) := by
  rw [Disk.makeLineage, if_pos rfl]
  rfl

/-- Making directories adds directories and changes nothing else, even where it is refused. -/
theorem writes_of_makeLineage (names : List String) (tree : FileTree) :
    tree.Writes (disk.makeLineage names tree).2 [] := by
  induction names generalizing tree with
  | nil => exact .refl tree
  | cons name outer inductionHypothesis =>
    by_cases empty : name = ""
    · subst empty
      rw [makeLineage_empty]
      exact .refl tree
    · have adds := inductionHypothesis tree
      rcases ran : disk.makeLineage (name :: outer) tree with ⟨outcome, after⟩
      cases lineage_of_makeLineage empty ran with
      | made done => exact writes_of_makeDirectory done
      | present | refused => exact .refl tree
      | outerRefused _ around | presentInside _ around | refusedInside _ around =>
        rwa [around] at adds
      | madeInside _ around done =>
        rw [around] at adds
        exact adds.trans (writes_of_makeDirectory done)

/-- A directory that has been made is there. -/
theorem isDirectory_of_makeLineage (nonempty : name ≠ "")
    (ran : disk.makeLineage (name :: outer) tree = (.ok (), after)) :
    after.isDirectory name = true := by
  cases lineage_of_makeLineage nonempty ran with
  | made done | madeInside _ _ done => exact isDirectory_of_makeDirectory done
  | present here | presentInside _ _ here => exact here

/-! ### The directory in front of a name -/

theorem checkName_of_front (front : parent.toList <+: name.toList) (nonempty : parent ≠ "")
    (checked : checkName name = .ok ()) : checkName parent = .ok () := by
  obtain ⟨rest, written⟩ := front
  obtain ⟨plain, _, short⟩ := checkName_eq_ok.mp checked
  have whole : name = parent ++ String.ofList rest := by
    rw [← String.toList_inj, String.toList_append, String.toList_ofList, written]
  rw [← written] at plain
  rw [whole, String.utf8ByteSize_append] at short
  exact checkName_eq_ok.mpr
    ⟨fun inside => plain (List.mem_append_left rest inside), nonempty, by omega⟩

/-- A name can be gone through only if there is a directory in front of it. -/
theorem isDirectory_parent (found : parent? name = some parent) (nonempty : parent ≠ "")
    {location : FileLocation} (checked : checkName name = .ok ())
    (walked : tree.walk (tree.origin name) (named name.toList) = .ok location) :
    tree.isDirectory parent = true := by
  obtain ⟨front, starts, more, further, written⟩ := FileName.prefix_of_parent? found nonempty
  have origin : tree.origin parent = tree.origin name := by
    rw [FileTree.origin, FileTree.origin, starts]
  rw [written, ← origin] at walked
  obtain ⟨walked, here⟩ := directory_of_walk_append walked further
  rw [← target_eq_named] at walked here
  exact isDirectory_iff.mpr
    ⟨reaches_of_directory (checkName_of_front front nonempty checked) walked here, here⟩

theorem isDirectory_parent_of_made (found : parent? name = some parent) (nonempty : parent ≠ "")
    (made : (∃ after, tree.makeDirectory name = .ok after) ∨ tree.isDirectory name = true) :
    tree.isDirectory parent = true := by
  rcases made with ⟨after, made⟩ | here
  · obtain ⟨location, new, _⟩ := makeDirectory_eq_ok made
    obtain ⟨checked, walked, _⟩ := newDirectory_eq_ok new
    exact isDirectory_parent found nonempty checked walked
  · obtain ⟨checked, walked⟩ := reaches_iff.mp (isDirectory_iff.mp here).1
    rw [FileName.components_eq] at walked
    obtain ⟨_, walked, _⟩ := walk_append.mp walked
    exact isDirectory_parent found nonempty checked walked

/-! ### Refusals -/

theorem outwards_succ (count : Nat) (name : String) :
    ∃ outer, FileName.outwards (count + 1) name = name :: outer ∧
      (outer = [] ∨ ∃ parent, parent? name = some parent ∧
        outer = FileName.outwards count parent) := by
  rw [FileName.outwards]
  cases found : parent? name with
  | none => exact ⟨[], rfl, Or.inl rfl⟩
  | some parent => exact ⟨_, rfl, Or.inr ⟨parent, rfl, rfl⟩⟩

theorem run_outwards (count : Nat) (here : name ≠ "" → tree.isDirectory name = true) :
    disk.makeLineage (FileName.outwards (count + 1) name) tree = (.ok (), tree) := by
  obtain ⟨outer, written, _⟩ := outwards_succ count name
  rw [written]
  by_cases empty : name = ""
  · subst empty
    exact makeLineage_empty outer tree
  · exact makeLineage_of_isDirectory empty (here empty)

/-- What has been refused is refused again in the tree that is left. -/
theorem refused_again (count : Nat)
    (ran : disk.makeLineage (FileName.outwards count name) tree = (.error fault, after)) :
    ∃ fault, (disk.makeLineage (FileName.outwards count name) after).1 = .error fault := by
  induction count generalizing name fault after with
  | zero =>
    cases ran
    exact ⟨_, rfl⟩
  | succ count inductionHypothesis =>
    obtain ⟨outer, written, around⟩ := outwards_succ count name
    rw [written] at ran ⊢
    have nonempty : name ≠ "" := by
      rintro rfl
      rw [makeLineage_empty] at ran
      cases ran
    have again : after = tree →
        ∃ fault, (disk.makeLineage (name :: outer) after).1 = .error fault :=
      fun same => ⟨fault, by rw [same, ran]⟩
    rcases around with rfl | ⟨parent, found, rfl⟩
    · -- No directory around it could have been made.
      refine again ?_
      cases lineage_of_makeLineage nonempty ran with
      | refused => rfl
      | outerRefused _ around => cases around; rfl
      | refusedInside _ around => cases around
    · cases count with
      | zero =>
        refine again ?_
        cases lineage_of_makeLineage nonempty ran with
        | refused => rfl
        | outerRefused _ around => cases around; rfl
        | refusedInside _ around => cases around
      | succ count =>
        cases lineage_of_makeLineage nonempty ran with
        | refused => exact again rfl
        | outerRefused missing around =>
          obtain ⟨fault', refused⟩ := inductionHypothesis around
          have impossible (there : parent ≠ "" → after.isDirectory parent = true) : False := by
            rw [run_outwards count there] at refused
            cases refused
          rcases second : disk.makeLineage (name :: FileName.outwards (count + 1) parent) after with
            ⟨fault | ⟨⟨⟩⟩, last⟩
          · exact ⟨fault, rfl⟩
          · refine (?_ : False).elim
            cases lineage_of_makeLineage nonempty second with
            | made done =>
              exact impossible fun some =>
                isDirectory_parent_of_made found some (Or.inl ⟨_, done⟩)
            | present here =>
              exact impossible fun some => isDirectory_parent_of_made found some (Or.inr here)
            | madeInside _ around | presentInside _ around =>
              rw [around] at refused
              cases refused
        | refusedInside missing around failed absent =>
          have there : parent ≠ "" → after.isDirectory parent = true := by
            intro some
            obtain ⟨others, written, _⟩ := outwards_succ count parent
            rw [written] at around
            exact isDirectory_of_makeLineage some around
          by_cases lost : fault = .notFound
          · subst lost
            rw [makeLineage_of_outer_made nonempty failed (run_outwards count there), failed]
            dsimp only
            rw [absent]
            exact ⟨_, rfl⟩
          · rw [makeLineage_of_refused nonempty failed lost, absent]
            exact ⟨_, rfl⟩

end FileTree

end ConsumerContract
