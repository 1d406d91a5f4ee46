/-
This file says more about what a run keeps where there are no links and space does not run out. In a
file tree a file keeps its content unless a contract has been written to its place. As long as it
does it is compiled as it would be on its own, for whether its contract can be written is settled
from the beginning: either the directory that contracts go to is made with the first contract, and
from then on the directories stay as they are, or it can never be made. Only the reason for a
refusal may change, as a name may lead through a file that was missing before.
-/

import ConsumerContract.Proofs.KeptInputs

namespace ConsumerContract

open FileName (join)

/-! ### Trees with the same directories -/

namespace FileTree

variable {first second third tree after : FileTree} {name : String} {content : ByteArray}

/-- Names lead to the same places and through the same directories. -/
def SameDirectories (first second : FileTree) : Prop :=
  first.Grows second ∧ second.Grows first

namespace SameDirectories

theorem refl (tree : FileTree) : SameDirectories tree tree :=
  ⟨.refl tree, .refl tree⟩

theorem symm (same : SameDirectories first second) : SameDirectories second first :=
  ⟨same.2, same.1⟩

theorem trans (before : SameDirectories first second) (behind : SameDirectories second third) :
    SameDirectories first third :=
  ⟨before.1.trans behind.1, behind.2.trans before.2⟩

/-- Where a file can be written in one of the trees, it can be written in the other. -/
theorem write_ok (same : SameDirectories first second)
    (written : first.write name content = .ok after) :
    ∃ last, second.write name content = .ok last := by
  obtain ⟨reaches, free, _⟩ := write_eq_ok.mp written
  refine ⟨_, write_eq_ok.mpr ⟨same.1.reaches reaches, fun taken => free ?_, rfl⟩⟩
  rw [same.1.target] at taken
  exact same.2.directory _ taken

end SameDirectories

/-- A file that is written makes no directory and takes none away. -/
theorem sameDirectories_of_write (written : tree.write name content = .ok after) :
    SameDirectories tree after := by
  have changes := writes_of_write written
  refine ⟨changes.grows, changes.workingDirectory.symm, fun place here => ?_⟩
  by_cases apart : place = tree.target name
  · subst apart
    rw [(changes.written _ _ (lastWritten_singleton_self content)).1] at here
    cases here
  · obtain ⟨_, _, rfl⟩ := write_eq_ok.mp written
    rwa [entry?_set_of_ne apart] at here

end FileTree

/-! ### One contract, written earlier or later -/

namespace Compilation

open FileTree (SameDirectories)

variable {source : ExampleSource} {options : CompileOptions} {start tree after : FileTree}
  {directory file : String} {document : Document}

/-- What has become of the directory for contracts in a run from the first tree to the second. -/
inductive Settled (options : CompileOptions) (start : FileTree) : FileTree → Prop
  | untouched : Settled options start start
  | made {directory : String} {middle tree : FileTree}
      (wanted : options.target? = some directory)
      (made : FileTree.disk.makeDirectories directory start = (.ok (), middle))
      (same : SameDirectories middle tree) : Settled options start tree
  | refused {directory : String} {fault again : FileFault} {middle last tree : FileTree}
      (wanted : options.target? = some directory)
      (refused : FileTree.disk.makeDirectories directory start = (.error fault, middle))
      (again : FileTree.disk.makeDirectories directory tree = (.error again, last)) :
      Settled options start tree

/-- The contract is written in both runs, or refused in both at the same place. -/
inductive SameOutcome : Except FileRefusal String → Except FileRefusal String → Prop
  | written (name : String) : SameOutcome (.ok name) (.ok name)
  | refused (name : String) (first second : FileFault) :
      SameOutcome (.error ⟨name, first⟩) (.error ⟨name, second⟩)

theorem SameOutcome.refl (outcome : Except FileRefusal String) : SameOutcome outcome outcome := by
  cases outcome with
  | ok name => exact .written name
  | error refusal => exact .refused refusal.name refusal.fault refusal.fault

theorem makeDirectories_again {middle : FileTree}
    (made : FileTree.disk.makeDirectories directory start = (.ok (), middle))
    (same : SameDirectories middle tree) :
    FileTree.disk.makeDirectories directory tree = (.ok (), tree) := by
  refine FileTree.run_outwards _ fun nonempty => same.1.isDirectory ?_
  obtain ⟨outer, written, _⟩ := FileTree.outwards_succ directory.length directory
  rw [Disk.makeDirectories, FileName.lineage, written] at made
  exact FileTree.isDirectory_of_makeLineage nonempty made

theorem makeDirectories_refused_again {fault : FileFault}
    (refused : FileTree.disk.makeDirectories directory tree = (.error fault, after)) :
    ∃ again last, FileTree.disk.makeDirectories directory after = (.error again, last) := by
  obtain ⟨again, failed⟩ := FileTree.refused_again _ refused
  exact ⟨again, _, Prod.ext failed rfl⟩

/-- The first contract settles what becomes of the directory. -/
theorem settled_of_first (wanted : options.target? = some directory)
    {outcome : Except FileRefusal String}
    (wrote : document.writeTo FileTree.disk directory start = (outcome, after)) :
    Settled options start after := by
  cases Document.writing_of_writeTo wrote with
  | noDirectory unmade =>
    obtain ⟨again, last, failed⟩ := makeDirectories_refused_again unmade
    exact .refused wanted unmade failed
  | refused made failed =>
    rw [FileTree.run_write_error failed]
    exact .made wanted made (.refl _)
  | written made done =>
    exact .made wanted made (FileTree.sameDirectories_of_write (FileTree.run_write_eq.mp done))

/-- With the directory in place it is up to the file whether the contract is written. -/
theorem writeTo_of_made {middle : FileTree} {outcome : Except FileRefusal String}
    (made : FileTree.disk.makeDirectories directory tree = (.ok (), middle))
    (wrote : document.writeTo FileTree.disk directory tree = (outcome, after)) :
    let name := join directory document.fileName
    let content := document.toJson.pretty.toUTF8
    (outcome = .ok name ∧ middle.write name content = .ok after) ∨
      ((∃ fault, outcome = .error ⟨name, fault⟩) ∧ after = middle ∧
        ∀ last, middle.write name content ≠ .ok last) := by
  cases Document.writing_of_writeTo wrote with
  | noDirectory unmade => cases made.symm.trans unmade
  | refused made' failed =>
    cases made.symm.trans made'
    refine Or.inr ⟨⟨_, rfl⟩, FileTree.run_write_error failed, fun last done => ?_⟩
    cases (FileTree.run_write_eq.mpr done).symm.trans failed
  | written made' done =>
    cases made.symm.trans made'
    exact Or.inl ⟨rfl, FileTree.run_write_eq.mp done⟩

theorem writeTo_of_unmade {middle : FileTree} {fault : FileFault}
    {outcome : Except FileRefusal String}
    (unmade : FileTree.disk.makeDirectories directory tree = (.error fault, middle))
    (wrote : document.writeTo FileTree.disk directory tree = (outcome, after)) :
    outcome = .error ⟨directory, fault⟩ ∧ after = middle := by
  cases Document.writing_of_writeTo wrote with
  | noDirectory unmade' =>
    cases unmade.symm.trans unmade'
    exact ⟨rfl, rfl⟩
  | refused made | written made => cases unmade.symm.trans made

/-- Whether a contract can be written does not change during a run. -/
theorem writeTo_of_settled (settled : Settled options start tree)
    (wanted : options.target? = some directory) {outcome own : Except FileRefusal String}
    {afterOwn : FileTree}
    (wrote : document.writeTo FileTree.disk directory tree = (outcome, after))
    (alone : document.writeTo FileTree.disk directory start = (own, afterOwn)) :
    SameOutcome outcome own ∧ Settled options start after := by
  cases settled with
  | untouched =>
    obtain ⟨rfl, rfl⟩ := Prod.mk.inj (wrote.symm.trans alone)
    exact ⟨.refl outcome, settled_of_first wanted wrote⟩
  | made wanted' made same =>
    obtain rfl := Option.some.inj (wanted'.symm.trans wanted)
    rcases writeTo_of_made (makeDirectories_again made same) wrote with
      ⟨rfl, done⟩ | ⟨⟨fault, rfl⟩, rfl, failed⟩
    · refine ⟨?_, .made wanted made (same.trans (FileTree.sameDirectories_of_write done))⟩
      rcases writeTo_of_made made alone with ⟨rfl, _⟩ | ⟨_, _, failed⟩
      · exact .written _
      · obtain ⟨last, done⟩ := same.symm.write_ok done
        exact absurd done (failed last)
    · refine ⟨?_, .made wanted made same⟩
      rcases writeTo_of_made made alone with ⟨_, done⟩ | ⟨⟨other, rfl⟩, _, _⟩
      · obtain ⟨last, done⟩ := same.write_ok done
        exact absurd done (failed last)
      · exact .refused _ fault other
  | refused wanted' refused again =>
    obtain rfl := Option.some.inj (wanted'.symm.trans wanted)
    obtain ⟨rfl, rfl⟩ := writeTo_of_unmade again wrote
    obtain ⟨rfl, _⟩ := writeTo_of_unmade refused alone
    obtain ⟨_, _, failed⟩ := makeDirectories_refused_again again
    exact ⟨.refused _ _ _, .refused wanted refused failed⟩

/-! ### One file, compiled earlier or later -/

/-- The reports agree, except that the disk may have refused the contract for another reason. -/
inductive SameReport (file : String) : Report → Report → Prop
  | same (report : Report) : SameReport file report report
  | refused (report : Report) (name : String) (first second : FileFault) :
      SameReport file (report.addIssue (.notWritten file (.refused ⟨name, first⟩)))
        (report.addIssue (.notWritten file (.refused ⟨name, second⟩)))

theorem sameReport_conclude (file : String) (report : Report)
    {first second : Except FileRefusal String} (same : SameOutcome first second) :
    SameReport file (conclude file report first) (conclude file report second) := by
  cases same with
  | written name => exact .same _
  | refused name fault other => exact .refused report name fault other

/-- What is settled stays so with each file. -/
theorem settled_ofFile (settled : Settled options start tree) (file : String) :
    Settled options start (ofFile source FileTree.disk options file tree).2 := by
  obtain ⟨plan, -, planning, -, run⟩ := exists_plan source options (FileTree.run_readText file tree)
  generalize FileTree.textOf (tree.read file) = content at planning
  rw [run]
  cases planning with
  | blocked => exact settled
  | ready clean wanted specified => exact (writeTo_of_settled settled wanted rfl rfl).2

/-- A file that still has its content gives the same report as on its own. -/
theorem sameReport_ofFile (settled : Settled options start tree)
    (kept : tree.read file = start.read file) :
    SameReport file (ofFile source FileTree.disk options file tree).1
      (ofFile source FileTree.disk options file start).1 := by
  have opened := FileTree.run_readText file tree
  rw [kept] at opened
  obtain ⟨plan, chosen, planning, -, run⟩ := exists_plan source options opened
  have alone := run_ofFile source options (FileTree.run_readText file start)
  rw [run, alone, chosen]
  generalize FileTree.textOf (start.read file) = content at planning
  cases planning with
  | blocked => exact .same _
  | ready clean wanted specified =>
    exact sameReport_conclude file _ (writeTo_of_settled settled wanted rfl rfl).1

/-! ### Runs over several files -/

/-- At each stage contracts have been written for the files before, and what has been settled by
the first of them still is. -/
theorem stage_of_run {files : List String} {front behind : List (String × FileTree)}
    {before : FileTree} (settled : Settled options start tree)
    {writes : List (FileLocation × ByteArray)} (changes : start.Writes tree writes)
    (staged : stages source FileTree.disk options tree files = front ++ (file, before) :: behind) :
    Settled options start before ∧ ∃ others, start.Writes before (writes ++ others) ∧
      ∀ entry ∈ others, ∃ earlier ∈ front,
        ∃ name ∈ (stageReport source FileTree.disk options earlier).contracts,
          entry.1 = start.target name := by
  induction files generalizing tree front writes with
  | nil => cases front <;> cases staged
  | cons first rest inductionHypothesis =>
    cases front with
    | nil =>
      obtain ⟨same, _⟩ := List.cons.inj staged
      obtain ⟨_, rfl⟩ := Prod.mk.inj same
      exact ⟨settled, [], by rwa [List.append_nil], nofun⟩
    | cons earlier front =>
      obtain ⟨rfl, later⟩ := List.cons.inj staged
      have adds := (ofFile_adds source options first tree).1
      obtain ⟨settled, others, changes', named⟩ :=
        inductionHypothesis (settled_ofFile settled first) (changes.trans adds.writes) later
      refine ⟨settled, _, by rwa [← List.append_assoc], fun entry member => ?_⟩
      rcases List.mem_append.mp member with member | member
      · obtain ⟨contract, among, rfl⟩ := List.mem_map.mp member
        refine ⟨_, List.mem_cons_self, contract.name, ?_, changes.grows.target contract.name⟩
        rw [stageReport, adds.contracts]
        exact List.mem_map_of_mem among
      · obtain ⟨earlier, among, rest⟩ := named entry member
        exact ⟨earlier, List.mem_cons_of_mem _ among, rest⟩

/-- Every file has kept its content, unless a contract in the report lies in its place. -/
def KeepsInputs (before : FileTree) (report : Report) (after : FileTree) : Prop :=
  ∀ name content, before.read name = .ok content →
    (∀ contract ∈ report.contracts, before.target contract ≠ before.target name) →
      after.read name = .ok content

theorem keepsInputs_of_adds {contracts : List WrittenContract} {report : Report}
    (adds : Adds tree contracts report after) : KeepsInputs tree report after := by
  intro name content read apart
  refine adds.writes.read (fun entry member => ?_) read
  obtain ⟨contract, among, rfl⟩ := List.mem_map.mp member
  refine apart contract.name ?_
  rw [adds.contracts]
  exact List.mem_map_of_mem among

/-- In a file tree no run changes its inputs but by writing contracts over them, and the part of a
description to whose place no contract has been written before is the one that it gives on its own,
except that the disk may refuse its contract for another reason. -/
theorem fileTree_keeps_inputs (source : ExampleSource) (options : CompileOptions)
    (tree : FileTree) :
    (∀ file, let run := ofFile source FileTree.disk options file tree
      KeepsInputs tree run.1 run.2) ∧
    ∀ directory,
      let run := ofDirectory source FileTree.disk options directory tree
      KeepsInputs tree run.1 run.2 ∧
      ∀ front file before behind,
        stages source FileTree.disk options tree (tree.descriptions directory) =
            front ++ (file, before) :: behind →
        (∀ earlier ∈ front,
          ∀ contract ∈ (stageReport source FileTree.disk options earlier).contracts,
            tree.target contract ≠ tree.target file) →
        SameReport file (stageReport source FileTree.disk options (file, before))
          (ofFile source FileTree.disk options file tree).1 := by
  refine ⟨fun file => keepsInputs_of_adds (ofFile_adds source options file tree).1,
    fun directory => ⟨keepsInputs_of_adds (ofDirectory_adds source options directory tree), ?_⟩⟩
  intro front file before behind staged apart
  obtain ⟨settled, others, changes, named⟩ := stage_of_run .untouched (.refl tree) staged
  have member : file ∈ FileTree.disk.descriptions tree directory := by
    rw [FileTree.descriptions] at staged
    rw [← map_fst_stages source FileTree.disk options tree (FileTree.disk.descriptions tree _),
      staged, List.map_append]
    exact List.mem_append_right _ List.mem_cons_self
  obtain ⟨input, here⟩ := leads_of_mem_descriptions FileTree.keepsFiles_disk member
  obtain ⟨-, content, read⟩ := FileTree.leads_eq_some.mp here
  refine sameReport_ofFile settled ?_
  rw [read]
  refine changes.read (fun entry written => ?_) read
  obtain ⟨earlier, among, contract, reported, same⟩ := named entry written
  rw [same]
  exact apart earlier among contract reported

end Compilation

end ConsumerContract
