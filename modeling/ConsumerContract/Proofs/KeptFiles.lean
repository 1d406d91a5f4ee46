/-
This file says what becomes of the files on a disk. All that is asked of the disk is what it
does to files in one operation: to look at it changes nothing, and to make a directory or to
write a file leaves all other files as they are. How a name leads to a file does not matter,
so there may be links; and an operation may be refused for any reason. In particular a file
that could be opened but not be written is lost although the write is refused. So what a run
keeps is told by the names to which it has tried to write, not by those it has written.
-/

import ConsumerContract.Files.Device
import ConsumerContract.Proofs.WrittenContracts

namespace ConsumerContract

open FileName (join)

variable {σ File : Type}

namespace Disk

/-! ### One operation -/

/-- To look at the disk changes nothing. -/
structure Looks (disk : Disk (StateM σ)) : Prop where
  read : ∀ name state, (disk.read name state).2 = state
  list : ∀ name state, (disk.list name state).2 = state
  isDirectory : ∀ name state, (disk.isDirectory name state).2 = state
  isFile : ∀ name state, (disk.isFile name state).2 = state

/-- From the one state to the other, all files that were there have been kept, except those to which
one of the names leads. -/
structure Keeps (disk : Disk (StateM σ)) (leads : σ → String → Option File) (tried : List String)
    (before after : σ) : Prop where
  names : ∀ name file, leads before name = some file → leads after name = some file
  contents : ∀ name file, leads before name = some file →
    (∀ other ∈ tried, leads after other ≠ some file) →
      (disk.read name after).1 = (disk.read name before).1

/-- What a disk does to files. A name leads to a file or to none, and what it leads to can not be
changed through a name that leads elsewhere. Whether the operation succeeds does not matter. -/
structure KeepsFiles (disk : Disk (StateM σ)) (leads : σ → String → Option File) : Prop
    extends Looks disk where
  present : ∀ name state, (disk.isFile name state).1 = (leads state name).isSome
  makeDirectory : ∀ name state, disk.Keeps leads [] state (disk.makeDirectory name state).2
  write : ∀ name content state, disk.Keeps leads [name] state (disk.write name content state).2

/-! ### Several operations -/

variable {disk : Disk (StateM σ)} {leads : σ → String → Option File} {before middle after : σ}

namespace Keeps

theorem refl (disk : Disk (StateM σ)) (leads : σ → String → Option File) (tried : List String)
    (state : σ) : disk.Keeps leads tried state state :=
  ⟨fun _ _ here => here, fun _ _ _ _ => rfl⟩

/-- What a name leads to it still leads to later, so the tried names can be looked at in the end. -/
theorem trans {tried others : List String} (first : disk.Keeps leads tried before middle)
    (second : disk.Keeps leads others middle after) :
    disk.Keeps leads (tried ++ others) before after := by
  refine ⟨fun name file here => second.names name file (first.names name file here),
    fun name file here apart => ?_⟩
  obtain ⟨early, late⟩ := List.forall_mem_append.mp apart
  rw [second.contents name file (first.names name file here) late]
  exact first.contents name file here fun other member leadsThere =>
    early other member (second.names other file leadsThere)

end Keeps

namespace KeepsFiles

variable (keeps : disk.KeepsFiles leads)
include keeps

theorem unlessDirectory (name : String) (fault : FileFault) (state : σ) :
    (disk.unlessDirectory name fault state).2 = state := by
  have asked : disk.isDirectory name state = ((disk.isDirectory name state).1, state) :=
    Prod.ext rfl (keeps.isDirectory name state)
  rw [Disk.unlessDirectory, run_bind asked]
  split <;> rfl

/-- To make some directories is to make one at a time, whatever comes of it. -/
theorem makeLineage (names : List String) (state : σ) :
    disk.Keeps leads [] state (disk.makeLineage names state).2 := by
  induction names generalizing state with
  | nil => exact .refl disk leads [] state
  | cons name outer inductionHypothesis =>
    rw [Disk.makeLineage]
    split
    · exact .refl disk leads [] state
    · rcases made : disk.makeDirectory name state with ⟨outcome, middle⟩
      have kept : disk.Keeps leads [] state middle := by
        have made' := keeps.makeDirectory name state
        rwa [made] at made'
      rw [run_bind made]
      rcases outcome with fault | ⟨⟨⟩⟩
      · cases fault with
        | notFound =>
          dsimp only
          rcases around : disk.makeLineage outer middle with ⟨outcome, last⟩
          have kept : disk.Keeps leads [] state last := by
            have around' := inductionHypothesis middle
            rw [around] at around'
            exact kept.trans around'
          rw [run_bind around]
          rcases outcome with fault | ⟨⟨⟩⟩
          · exact kept
          · dsimp only
            rcases again : disk.makeDirectory name last with ⟨outcome, whole⟩
            have again' := keeps.makeDirectory name last
            rw [again] at again'
            rw [run_bind again]
            rcases outcome with fault | ⟨⟨⟩⟩
            · dsimp only
              rw [keeps.unlessDirectory]
              exact kept.trans again'
            · exact kept.trans again'
        | _ =>
          dsimp only
          rw [keeps.unlessDirectory]
          exact kept
      · exact kept

theorem makeDirectories (directory : String) (state : σ) :
    disk.Keeps leads [] state (disk.makeDirectories directory state).2 :=
  keeps.makeLineage _ state

/-- To read a text is to read a file. -/
theorem readText (name : String) (state : σ) : (disk.readText name state).2 = state := by
  have opened : disk.read name state = ((disk.read name state).1, state) :=
    Prod.ext rfl (keeps.read name state)
  rw [Disk.readText, run_bind opened]
  cases (disk.read name state).1 with
  | error fault => rfl
  | ok bytes =>
    dsimp only
    cases String.fromUTF8? bytes <;> rfl

end KeepsFiles

/-- What a text is depends on the file alone. -/
theorem readText_of_read (looks : disk.Looks) {name : String}
    (same : (disk.read name after).1 = (disk.read name before).1) :
    (disk.readText name after).1 = (disk.readText name before).1 := by
  have opened (state : σ) : disk.read name state = ((disk.read name state).1, state) :=
    Prod.ext rfl (looks.read name state)
  rw [Disk.readText, run_bind (opened after), run_bind (opened before), same]
  cases (disk.read name before).1 with
  | error fault => rfl
  | ok bytes =>
    dsimp only
    cases String.fromUTF8? bytes <;> rfl

end Disk

/-! ### Contracts -/

namespace Document

variable {disk : Disk (StateM σ)} {leads : σ → String → Option File}

/-- The file to which a contract is tried to be written, if its directory can be made. -/
def tried (document : Document) (disk : Disk (StateM σ)) (directory : String) (state : σ) :
    Option String :=
  match (disk.makeDirectories directory state).1 with
  | .ok () => some (join directory document.fileName)
  | .error _ => none

/-- The ways in which the writing of a contract can end: the contract is written under its own name,
or the directory or the file is refused. -/
inductive MayEnd (document : Document) (directory : String) : Except FileRefusal String → Prop
  | written : MayEnd document directory (.ok (join directory document.fileName))
  | noDirectory (fault : FileFault) : MayEnd document directory (.error ⟨directory, fault⟩)
  | refused (fault : FileFault) :
      MayEnd document directory (.error ⟨join directory document.fileName, fault⟩)

theorem mayEnd_of_writing {document : Document} {directory : String} {before after : σ}
    {outcome : Except FileRefusal String}
    (writing : document.Writing disk directory before outcome after) :
    document.MayEnd directory outcome := by
  cases writing with
  | noDirectory unmade => exact .noDirectory _
  | refused made failed => exact .refused _
  | written made done => exact .written

/-- To write a contract keeps all files but the one that is tried, and how it ended names that. -/
theorem keeps_of_writing (keeps : disk.KeepsFiles leads) {document : Document} {directory : String}
    {before after : σ} {outcome : Except FileRefusal String}
    (writing : document.Writing disk directory before outcome after) :
    disk.Keeps leads (document.tried disk directory before).toList before after ∧
      ∀ name ∈ document.tried disk directory before,
        outcome = .ok name ∨ ∃ fault, outcome = .error ⟨name, fault⟩ := by
  have around := keeps.makeDirectories directory before
  cases writing with
  | noDirectory unmade =>
    rw [unmade] at around
    rw [tried, unmade]
    exact ⟨around, nofun⟩
  | refused made failed =>
    rename_i fault middle
    have written := keeps.write (join directory document.fileName) document.toJson.pretty.toUTF8
      middle
    rw [made] at around
    rw [failed] at written
    rw [tried, made]
    refine ⟨around.trans written, ?_⟩
    rintro _ ⟨⟩
    exact Or.inr ⟨fault, rfl⟩
  | written made done =>
    rename_i middle
    have written := keeps.write (join directory document.fileName) document.toJson.pretty.toUTF8
      middle
    rw [made] at around
    rw [done] at written
    rw [tried, made]
    refine ⟨around.trans written, ?_⟩
    rintro _ ⟨⟩
    exact Or.inl rfl

end Document

/-! ### File trees and devices -/

namespace FileTree

variable {tree after : FileTree} {name : String} {location : FileLocation}

/-- The place of the file that a name leads to. -/
def leads (tree : FileTree) (name : String) : Option FileLocation :=
  match tree.find name with
  | .ok (location, .file _) => some location
  | _ => none

theorem leads_eq_some :
    tree.leads name = some location ↔
      location = tree.target name ∧ ∃ content, tree.read name = .ok content := by
  unfold leads
  split
  · rename_i place content found
    obtain ⟨reaches, rfl, here⟩ := find_eq_ok.mp found
    rw [Option.some.injEq, eq_comm]
    exact (and_iff_left ⟨content, read_eq_ok.mpr ⟨reaches, here⟩⟩).symm
  · rename_i other
    refine iff_of_false nofun ?_
    rintro ⟨-, content, read⟩
    obtain ⟨reaches, here⟩ := read_eq_ok.mp read
    exact other _ content (find_eq_ok.mpr ⟨reaches, rfl, here⟩)

theorem isFile_eq_isSome_leads (tree : FileTree) (name : String) :
    tree.isFile name = (tree.leads name).isSome := by
  rw [isFile, leads]
  rcases tree.find name with fault | ⟨place, _ | content⟩ <;> rfl

/-- A file that is in the tree can still be read when others have been written, and still has its
content unless one of them lies in its place. -/
theorem Writes.leads {writes : List (FileLocation × ByteArray)} (changes : tree.Writes after writes)
    (here : tree.leads name = some location) : after.leads name = some location := by
  obtain ⟨rfl, content, read⟩ := leads_eq_some.mp here
  obtain ⟨reaches, entry⟩ := read_eq_ok.mp read
  refine leads_eq_some.mpr ⟨(changes.grows.target name).symm, ?_⟩
  cases last : lastWritten writes (tree.target name) with
  | some content =>
    refine ⟨content, read_eq_ok.mpr ⟨changes.grows.reaches reaches, ?_⟩⟩
    rw [changes.grows.target]
    exact (changes.written _ _ last).1
  | none =>
    refine ⟨content, read_eq_ok.mpr ⟨changes.grows.reaches reaches, ?_⟩⟩
    rw [changes.grows.target]
    exact changes.file entry last

end FileTree

/-- Whatever has a file tree in it keeps the files in which nothing has been written. -/
theorem Disk.keeps_of_writes {disk : Disk (StateM σ)} (tree : σ → FileTree)
    (reads : ∀ name state, (disk.read name state).1 = (tree state).read name) {before after : σ}
    {writes : List (FileLocation × ByteArray)} (changes : (tree before).Writes (tree after) writes)
    {tried : List String}
    (named : ∀ entry ∈ writes, ∃ name ∈ tried, (tree after).leads name = some entry.1) :
    disk.Keeps (fun state => (tree state).leads) tried before after := by
  refine ⟨fun name file here => changes.leads here, fun name file here apart => ?_⟩
  obtain ⟨rfl, content, read⟩ := FileTree.leads_eq_some.mp here
  rw [reads, reads, read]
  refine changes.read (fun entry member same => ?_) read
  obtain ⟨other, among, leads⟩ := named entry member
  exact apart other among (same ▸ leads)

namespace FileTree

theorem leads_of_write {tree after : FileTree} {name : String} {content : ByteArray}
    (written : tree.write name content = .ok after) :
    ∀ entry ∈ [(tree.target name, content)],
      ∃ other ∈ [name], after.leads other = some entry.1 := by
  have changes := writes_of_write written
  obtain ⟨reaches, -, -⟩ := write_eq_ok.mp written
  refine List.forall_mem_singleton.mpr ⟨name, List.mem_singleton_self name, ?_⟩
  refine leads_eq_some.mpr ⟨(changes.grows.target name).symm, content, read_eq_ok.mpr ⟨?_, ?_⟩⟩
  · exact changes.grows.reaches reaches
  · rw [changes.grows.target]
    exact (changes.written _ _ (lastWritten_singleton_self content)).1

/-- A file tree loses no file but by writing it. -/
theorem keepsFiles_disk : disk.KeepsFiles leads where
  read _ _ := rfl
  list _ _ := rfl
  isDirectory _ _ := rfl
  isFile _ _ := rfl
  present name tree := tree.isFile_eq_isSome_leads name
  makeDirectory name tree := by
    cases made : tree.makeDirectory name with
    | ok after =>
      rw [run_makeDirectory_of_ok made]
      exact Disk.keeps_of_writes (fun tree => tree) (fun _ _ => rfl)
        (writes_of_makeDirectory made) nofun
    | error fault =>
      rw [run_makeDirectory_of_error made]
      exact .refl disk leads [] tree
  write name content tree := by
    rcases ran : disk.write name content tree with ⟨fault | ⟨⟨⟩⟩, after⟩
    · rw [run_write_error ran]
      exact .refl disk leads [name] tree
    · have written := run_write_eq.mp ran
      exact Disk.keeps_of_writes (fun tree => tree) (fun _ _ => rfl) (writes_of_write written)
        (leads_of_write written)

end FileTree

/-- A device loses no file but by trying to write it, but it may lose that although the write is
refused. -/
theorem Device.keepsFiles_disk : disk.KeepsFiles fun device => device.tree.leads where
  read _ _ := rfl
  list _ _ := rfl
  isDirectory _ _ := rfl
  isFile _ _ := rfl
  present name device := device.tree.isFile_eq_isSome_leads name
  makeDirectory name device := by
    have unfolded : disk.makeDirectory name device = device.makeDirectory name := rfl
    rw [unfolded, makeDirectory]
    cases made : device.tree.makeDirectory name with
    | ok after =>
      exact Disk.keeps_of_writes tree (fun _ _ => rfl)
        (FileTree.writes_of_makeDirectory made) nofun
    | error fault => exact .refl disk _ [] device
  write name content device := by
    have unfolded : disk.write name content device = device.write name content := rfl
    rw [unfolded, write]
    cases written : device.tree.write name (content.extract 0 (device.available name)) with
    | ok after =>
      dsimp only
      have kept (room : Nat) :
          disk.Keeps (fun device => device.tree.leads) [name] device ⟨after, room⟩ :=
        Disk.keeps_of_writes tree (fun _ _ => rfl) (FileTree.writes_of_write written)
          (FileTree.leads_of_write written)
      split
      · exact kept _
      · exact kept 0
    | error fault => exact .refl disk _ [name] device

end ConsumerContract
