/-
This file says what writing a contract does. On any disk there are three ways for it to end,
and the contract is written by the last step of one of them. In a file tree directories are
made and at most one file is written; it can then be read by its name. The file lies directly
in the directory exactly if what its name has in front of the last slash leads back there, so
always if the names of consumer and provider have no slash.
-/

import ConsumerContract.Pact.Writer
import ConsumerContract.Proofs.MadeDirectories

namespace ConsumerContract

open FileName (join components named isAbsolute)

namespace Document

/-! ### Any disk -/

/-- How the writing of a contract ends, and what it leaves on the disk. -/
inductive Writing {σ : Type} (disk : Disk (StateM σ)) (document : Document) (directory : String)
    (before : σ) : Except FileRefusal String → σ → Prop
  | noDirectory {fault : FileFault} {after : σ}
      (unmade : disk.makeDirectories directory before = (.error fault, after)) :
      Writing disk document directory before (.error ⟨directory, fault⟩) after
  | refused {fault : FileFault} {middle after : σ}
      (made : disk.makeDirectories directory before = (.ok (), middle))
      (failed : disk.write (join directory document.fileName) document.toJson.pretty.toUTF8 middle =
        (.error fault, after)) :
      Writing disk document directory before
        (.error ⟨join directory document.fileName, fault⟩) after
  | written {middle after : σ} (made : disk.makeDirectories directory before = (.ok (), middle))
      (done : disk.write (join directory document.fileName) document.toJson.pretty.toUTF8 middle =
        (.ok (), after)) :
      Writing disk document directory before (.ok (join directory document.fileName)) after

theorem writing_of_writeTo {σ : Type} {disk : Disk (StateM σ)} {document : Document}
    {directory : String} {before after : σ} {outcome : Except FileRefusal String}
    (ran : document.writeTo disk directory before = (outcome, after)) :
    Writing disk document directory before outcome after := by
  rw [writeTo] at ran
  rcases made : disk.makeDirectories directory before with ⟨fault | ⟨⟨⟩⟩, middle⟩
  · rw [run_bind made] at ran
    cases ran
    exact .noDirectory made
  · rw [run_bind made] at ran
    dsimp only at ran
    rcases done : disk.write (join directory document.fileName) document.toJson.pretty.toUTF8 middle
      with ⟨fault | ⟨⟨⟩⟩, last⟩
    · rw [run_bind done] at ran
      cases ran
      exact .refused made done
    · rw [run_bind done] at ran
      cases ran
      exact .written made done

end Document

/-! ### File trees -/

namespace FileTree

variable {tree after : FileTree} {document : Document} {directory name : String}

theorem run_write_eq {content : ByteArray} {middle : FileTree} :
    disk.write name content tree = (.ok (), middle) ↔ tree.write name content = .ok middle := by
  have unfolded : disk.write name content tree = update (·.write name content) tree := rfl
  rw [unfolded, update]
  cases tree.write name content with
  | ok written =>
    constructor
    · intro same
      cases same
      rfl
    · intro same
      cases same
      rfl
  | error fault =>
    constructor
    · intro same
      cases same
    · intro same
      cases same

theorem run_write_error {content : ByteArray} {middle : FileTree} {fault : FileFault}
    (failed : disk.write name content tree = (.error fault, middle)) : middle = tree := by
  have unfolded : disk.write name content tree = update (·.write name content) tree := rfl
  rw [unfolded, update] at failed
  cases done : tree.write name content with
  | ok written =>
    rw [done] at failed
    cases failed
  | error fault =>
    rw [done] at failed
    cases failed
    rfl

theorem writes_of_makeDirectories (directory : String) (tree : FileTree) :
    tree.Writes (disk.makeDirectories directory tree).2 [] :=
  writes_of_makeLineage _ tree

/-- A contract that has been written can be read, and nothing else has been written. -/
theorem writes_of_written (wrote : document.writeTo disk directory tree = (.ok name, after)) :
    name = join directory document.fileName ∧
      tree.Writes after [(tree.target name, document.toJson.pretty.toUTF8)] ∧
        after.read name = .ok document.toJson.pretty.toUTF8 := by
  cases Document.writing_of_writeTo wrote with
  | written made done =>
    rename_i middle
    have around := writes_of_makeDirectories directory tree
    rw [made] at around
    have written := run_write_eq.mp done
    have changes := writes_of_write written
    obtain ⟨reaches, _, rfl⟩ := write_eq_ok.mp written
    refine ⟨rfl, ?_, read_eq_ok.mpr ⟨changes.grows.reaches reaches, ?_⟩⟩
    · rw [← around.grows.target]
      exact around.trans changes
    · rw [changes.grows.target]
      exact (changes.written _ _ (lastWritten_singleton_self _)).1

/-- A contract that has not been written leaves nothing but directories. -/
theorem writes_of_refused {refusal : FileRefusal}
    (refused : document.writeTo disk directory tree = (.error refusal, after)) :
    tree.Writes after [] := by
  have around := writes_of_makeDirectories directory tree
  cases Document.writing_of_writeTo refused with
  | noDirectory unmade => rwa [unmade] at around
  | refused made failed =>
    rw [run_write_error failed]
    rwa [made] at around

theorem isDirectory_of_written (nonempty : directory ≠ "")
    (wrote : document.writeTo disk directory tree = (.ok name, after)) :
    after.isDirectory directory = true := by
  cases Document.writing_of_writeTo wrote with
  | written made done =>
    obtain ⟨outer, written, _⟩ := outwards_succ directory.length directory
    rw [Disk.makeDirectories, FileName.lineage, written] at made
    have here := isDirectory_of_makeLineage nonempty made
    exact (writes_of_write (run_write_eq.mp done)).grows.isDirectory here

end FileTree

/-! ### The places of contracts -/

namespace Document

/-- Where the name of a contract's file leads from a directory, up to its last slash. -/
def folder (document : Document) (directory : FileLocation) : FileLocation :=
  (components document.fileName).dropLast.foldl FileTree.step
    (if isAbsolute document.fileName then [] else directory)

theorem toList_fileName (document : Document) :
    document.fileName.toList =
      document.consumer.toList ++ '-' :: document.provider.toList ++ ".json".toList := by
  rw [fileName, String.toList_append, String.toList_append, String.toList_append,
    List.append_assoc document.consumer.toList]
  rfl

/-- The last part of the name ends in `.json`, so it names an entry of its own. -/
theorem named_fileName (document : Document) :
    components document.fileName = named document.fileName.toList ∧
      ∃ front last, named document.fileName.toList = front ++ [last] ∧
        ∀ location, FileTree.step location last = location ++ [last] := by
  constructor
  · refine FileName.components_of_plain_end ?_
    rw [toList_fileName, List.getLast?_append_of_ne_nil _ (by decide)]
    decide
  · have plain : '/' ∉ ".json".toList := by decide
    obtain ⟨front, last, _, cut⟩ := FileName.parts_append_plain plain
      (document.consumer.toList ++ '-' :: document.provider.toList)
    have long : 5 ≤ (last ++ ".json".toList).length := by
      rw [List.length_append]
      exact Nat.le_add_left 5 last.length
    rw [← toList_fileName] at cut
    obtain ⟨others, written⟩ :=
      FileName.named_of_parts cut (List.ne_nil_of_length_pos (Nat.lt_of_lt_of_le (by decide) long))
    refine ⟨others, _, written, fun location => ?_⟩
    have apart (short : String) (few : short.length < 5) :
        String.ofList (last ++ ".json".toList) ≠ short := by
      rintro rfl
      rw [String.length_ofList] at few
      exact absurd few (Nat.not_lt.mpr long)
    rw [FileTree.step, if_neg (apart "." (by decide)), if_neg (apart ".." (by decide))]

/-- The place of the contract's file is one step behind that folder. -/
theorem target_eq (document : Document) (tree : FileTree) (directory : String) :
    ∃ last, tree.target (join directory document.fileName) =
      document.folder (tree.target directory) ++ [last] := by
  obtain ⟨same, front, last, written, further⟩ := document.named_fileName
  refine ⟨last, ?_⟩
  rw [folder, same, written, List.dropLast_concat]
  cases absolute : isAbsolute document.fileName with
  | true =>
    rw [FileTree.target_join_of_absolute tree directory absolute, written, List.foldl_append,
      if_pos rfl]
    exact further _
  | false =>
    rw [FileTree.target_join tree directory absolute, written, List.foldl_append]
    exact further _

theorem target_of_plain {document : Document} (consumer : '/' ∉ document.consumer.toList)
    (provider : '/' ∉ document.provider.toList) (tree : FileTree) (directory : String) :
    tree.target (join directory document.fileName) =
      tree.target directory ++ [document.fileName] := by
  have plain : '/' ∉ document.fileName.toList := by
    rw [toList_fileName]
    simp [consumer, provider]
  have relative : isAbsolute document.fileName = false := by
    refine decide_eq_false fun first => plain ?_
    exact List.mem_of_mem_head? first
  obtain ⟨_, front, last, written, further⟩ := document.named_fileName
  have single : named document.fileName.toList = [document.fileName] := by
    have some : document.fileName.toList ≠ [] := by
      rw [toList_fileName]
      exact List.append_ne_nil_of_right_ne_nil _ (by decide)
    rw [FileName.named_of_plain plain some, String.ofList_toList]
  rw [single] at written
  cases front with
  | nil =>
    obtain rfl := (List.cons.inj written).1
    rw [FileTree.target_join tree directory relative, single]
    exact further _
  | cons first others => exact absurd (List.cons.inj written).2 (by simp)

/-- A contract that has been written is one new or replaced file, and besides it directories are
made at most. The file lies directly in the directory exactly if what its name has in front of the
last slash leads back there; so it does if neither participant has a slash in its name. -/
theorem written_in_directory_iff (document : Document) (directory name : String)
    (tree after : FileTree)
    (wrote : document.writeTo FileTree.disk directory tree = (.ok name, after)) :
    let home := tree.target directory
    let location := tree.target name
    (directory ≠ "" → after.find directory = .ok (home, .directory)) ∧
      after.find name = .ok (location, .file document.toJson.pretty.toUTF8) ∧
      (∀ other, other ≠ location → after.entry? other = tree.entry? other ∨
        tree.entry? other = none ∧ after.entry? other = some .directory) ∧
      ((∃ child, location = home ++ [child]) ↔ document.folder home = home) ∧
      ('/' ∉ document.consumer.toList → '/' ∉ document.provider.toList →
        location = home ++ [document.fileName]) := by
  intro home location
  obtain ⟨rfl, changes, readable⟩ := FileTree.writes_of_written wrote
  have grows := changes.grows
  obtain ⟨reaches, here⟩ := FileTree.read_eq_ok.mp readable
  refine ⟨fun nonempty => ?_, ?_, fun other apart => ?_, ?_, fun consumer provider => ?_⟩
  · obtain ⟨there, entry⟩ :=
      FileTree.isDirectory_iff.mp (FileTree.isDirectory_of_written nonempty wrote)
    exact FileTree.find_eq_ok.mpr ⟨there, (grows.target directory).symm, entry⟩
  · exact FileTree.find_eq_ok.mpr ⟨reaches, (grows.target _).symm, here⟩
  · exact changes.kept other (FileTree.lastWritten_singleton_of_ne apart _)
  · obtain ⟨last, place⟩ := document.target_eq tree directory
    have place : location = document.folder home ++ [last] := place
    rw [place]
    constructor
    · rintro ⟨child, same⟩
      exact (List.append_inj' same rfl).1
    · intro same
      exact ⟨last, by rw [same]⟩
  · exact target_of_plain consumer provider tree directory

/-- A name that goes through a directory inside and comes back. -/
theorem written_in_directory_of_detour :
    let document : Document := ⟨"inner/../web", "users", []⟩
    let tree : FileTree := ⟨[(["out"], .directory), (["out", "inner"], .directory)], []⟩
    let name := "out/inner/../web-users.json"
    let after := (document.writeTo FileTree.disk "out" tree).2
    document.writeTo FileTree.disk "out" tree = (.ok name, after) ∧
      after.find "out" = .ok (["out"], .directory) ∧
      after.find name = .ok (["out", "web-users.json"], .file document.toJson.pretty.toUTF8) ∧
      document.folder ["out"] = ["out"] := by
  intro document tree name after
  have wrote : document.writeTo FileTree.disk "out" tree = (.ok name, after) :=
    Prod.ext (by decide +kernel) rfl
  obtain ⟨home, written, _, child, _⟩ :=
    written_in_directory_iff document "out" name tree after wrote
  have place : tree.target name = tree.target "out" ++ ["web-users.json"] := by decide +kernel
  have around : tree.target "out" = ["out"] := by decide +kernel
  rw [around] at home place child
  rw [place] at written child
  exact ⟨wrote, home (by decide), written, child.mp ⟨_, rfl⟩⟩

/-- A consumer whose name leads out of the directory has its contract written outside, over a file
that was there. -/
theorem written_outside_directory :
    let document : Document := ⟨"../notes", "api", []⟩
    let tree : FileTree :=
      ⟨[(["out"], .directory), (["notes-api.json"], .file "kept".toUTF8)], []⟩
    let name := "out/../notes-api.json"
    ∃ after, document.writeTo FileTree.disk "out" tree = (.ok name, after) ∧
      tree.target "out" = ["out"] ∧ tree.target name = ["notes-api.json"] ∧
      (¬ ∃ child, tree.target name = tree.target "out" ++ [child]) ∧
      tree.read "notes-api.json" = .ok "kept".toUTF8 ∧
      after.entry? ["notes-api.json"] = some (.file document.toJson.pretty.toUTF8) := by
  intro document tree name
  have wrote : document.writeTo FileTree.disk "out" tree =
      (.ok name, (document.writeTo FileTree.disk "out" tree).2) :=
    Prod.ext (by decide +kernel) rfl
  have home : tree.target "out" = ["out"] := by decide +kernel
  have place : tree.target name = ["notes-api.json"] := by decide +kernel
  obtain ⟨_, changes, _⟩ := FileTree.writes_of_written wrote
  rw [place] at changes
  refine ⟨_, wrote, home, place, ?_, ?_, ?_⟩
  · rw [home, place]
    rintro ⟨child, same⟩
    exact absurd (List.cons.inj same).1 (by decide)
  · decide +kernel
  · exact (changes.written _ _ (FileTree.lastWritten_singleton_self _)).1

end Document

end ConsumerContract
