/-
This file says what a run does to its inputs, on any disk. For each description that is compiled at
most one contract is tried to be written, and besides that the disk is only looked at. So every file
that was there keeps its content, unless it is one that was tried; and each try is reported, as a
contract or as a refusal. A description that has not been tried before its turn is read as it was in
the beginning. Then all that is reported about it is what it gives on its own, except for how the
writing of its contract ended, which is up to the disk.
-/

import ConsumerContract.Proofs.KeptContracts

namespace ConsumerContract

open FileName (join)

variable {σ File : Type}

/-! ### Tries -/

/-- The report says what became of the file: it is a contract that has been written, or it has been
refused. -/
def Report.Tells (report : Report) (name : String) : Prop :=
  name ∈ report.contracts ∨
    ∃ file fault, .notWritten file (.refused ⟨name, fault⟩) ∈ report.issues

/-- A run has tried to write these files, and has left all others as they were. Each of its tries is
reported. -/
structure Tries (disk : Disk (StateM σ)) (leads : σ → String → Option File) (before : σ)
    (tried : List String) (report : Report) (after : σ) : Prop where
  keeps : disk.Keeps leads tried before after
  told : ∀ name ∈ tried, report.Tells name

variable {disk : Disk (StateM σ)} {leads : σ → String → Option File} {before middle after : σ}

theorem Report.Tells.merge_left {report : Report} {name : String} (tells : report.Tells name)
    (other : Report) : (report.merge other).Tells name :=
  tells.imp (List.mem_append_left _) fun ⟨file, fault, member⟩ =>
    ⟨file, fault, List.mem_append_left _ member⟩

theorem Report.Tells.merge_right {report : Report} {name : String} (tells : report.Tells name)
    (other : Report) : (other.merge report).Tells name :=
  tells.imp (List.mem_append_right _) fun ⟨file, fault, member⟩ =>
    ⟨file, fault, List.mem_append_right _ member⟩

theorem Tries.nothing (disk : Disk (StateM σ)) (leads : σ → String → Option File) (state : σ)
    (report : Report) : Tries disk leads state [] report state :=
  ⟨.refl disk leads [] state, fun _ member => absurd member List.not_mem_nil⟩

theorem Tries.trans {tried others : List String} {report added : Report}
    (first : Tries disk leads before tried report middle)
    (second : Tries disk leads middle others added after) :
    Tries disk leads before (tried ++ others) (report.merge added) after :=
  ⟨first.keeps.trans second.keeps, List.forall_mem_append.mpr
    ⟨fun name member => (first.told name member).merge_left added,
      fun name member => (second.told name member).merge_right report⟩⟩

namespace Compilation

/-- The file to which a contract is tried to be written at a stage of a run. -/
def triedAt (source : ExampleSource) (disk : Disk (StateM σ)) (options : CompileOptions)
    (stage : String × σ) : Option String :=
  (plan source options stage.1 (disk.readText stage.1 stage.2).1).contract.bind
    fun (directory, document) => document.tried disk directory stage.2

variable (keeps : disk.KeepsFiles leads) (source : ExampleSource) (options : CompileOptions)

/-- What is reported of a contract names the file that was tried. -/
theorem tells_conclude (file : String) (report : Report) {name : String}
    {outcome : Except FileRefusal String}
    (ended : outcome = .ok name ∨ ∃ fault, outcome = .error ⟨name, fault⟩) :
    (conclude file report outcome).Tells name := by
  rcases ended with rfl | ⟨fault, rfl⟩
  · refine Or.inl ?_
    rw [contracts_conclude]
    exact List.mem_append_right _ (List.mem_singleton_self name)
  · refine Or.inr ⟨file, fault, ?_⟩
    rw [issues_conclude]
    exact List.mem_append_right _ (List.mem_singleton_self _)

section KeepsFiles

include keeps

theorem ofFile_eq (file : String) (state : σ) :
    ofFile source disk options file state =
      (plan source options file (disk.readText file state).1).run file disk state :=
  run_ofFile source options (Prod.ext rfl (keeps.readText file state))

/-- Compiling a file tries to write its contract. -/
theorem tries_ofFile (file : String) (state : σ) :
    let run := ofFile source disk options file state
    Tries disk leads state (triedAt source disk options (file, state)).toList run.1 run.2 := by
  intro run
  have ran : run = _ := ofFile_eq keeps source options file state
  rw [ran, triedAt]
  dsimp only
  generalize plan source options file (disk.readText file state).1 = chosen
  obtain ⟨report, contract⟩ := chosen
  cases contract with
  | none => exact .nothing disk leads state _
  | some contract =>
    obtain ⟨directory, document⟩ := contract
    obtain ⟨kept, named⟩ := Document.keeps_of_writing keeps
      (Document.writing_of_writeTo (rfl : document.writeTo disk directory state = _))
    exact ⟨kept, fun name member =>
      tells_conclude file report (named name (Option.mem_toList.mp member))⟩

theorem tries_ofFiles (files : List String) {state : σ} {tried : List String} {report : Report}
    (tries : Tries disk leads before tried report state) :
    let run := ofFiles source disk options report files state
    Tries disk leads before
      (tried ++ (stages source disk options state files).filterMap (triedAt source disk options))
      run.1 run.2 := by
  induction files generalizing tried report state with
  | nil =>
    rw [stages, List.filterMap_nil, List.append_nil]
    exact tries
  | cons file rest inductionHypothesis =>
    have added := tries.trans (tries_ofFile keeps source options file state)
    have parts : (stages source disk options state (file :: rest)).filterMap
          (triedAt source disk options) =
        (triedAt source disk options (file, state)).toList ++
          (stages source disk options (ofFile source disk options file state).2 rest).filterMap
            (triedAt source disk options) := by
      rw [stages, List.filterMap_cons]
      cases triedAt source disk options (file, state) <;> rfl
    rw [ofFiles_cons, parts, ← List.append_assoc]
    exact inductionHypothesis added

/-- At each stage the files are as the stages in front of it have left them. -/
theorem keeps_of_stage {files : List String} {front behind : List (String × σ)} {file : String}
    (staged : stages source disk options before files = front ++ (file, middle) :: behind) :
    disk.Keeps leads (front.filterMap (triedAt source disk options)) before middle := by
  induction files generalizing before front with
  | nil => cases front <;> cases staged
  | cons first rest inductionHypothesis =>
    cases front with
    | nil =>
      obtain ⟨same, -⟩ := List.cons.inj staged
      obtain ⟨-, rfl⟩ := Prod.mk.inj same
      exact .refl disk leads _ before
    | cons earlier front =>
      obtain ⟨rfl, later⟩ := List.cons.inj staged
      have tries := tries_ofFile keeps source options first before
      have kept := tries.keeps.trans (inductionHypothesis later)
      rw [List.filterMap_cons]
      revert kept
      cases triedAt source disk options (first, before) with
      | none => exact id
      | some name => exact id

end KeepsFiles

/-! ### Parts of a report -/

/-- The reports on a file are the same but for how the writing of its contract ended. -/
inductive SameButWriting (file : String) : Report → Report → Prop
  | same (report : Report) : SameButWriting file report report
  | ended (report : Report) {document : Document} {directory : String}
      {first second : Except FileRefusal String} (here : document.MayEnd directory first)
      (there : document.MayEnd directory second) :
      SameButWriting file (conclude file report first) (conclude file report second)

/-- What is reported is decided by the text, up to the writing. -/
theorem sameButWriting_of_readText (keeps : disk.KeepsFiles leads) {file : String}
    (same : (disk.readText file after).1 = (disk.readText file before).1) :
    SameButWriting file (ofFile source disk options file after).1
      (ofFile source disk options file before).1 := by
  rw [ofFile_eq keeps, ofFile_eq keeps, same]
  obtain ⟨report, contract⟩ := plan source options file (disk.readText file before).1
  cases contract with
  | none => exact .same report
  | some contract =>
    obtain ⟨directory, document⟩ := contract
    have ends (state : σ) : document.MayEnd directory (document.writeTo disk directory state).1 :=
      Document.mayEnd_of_writing (Document.writing_of_writeTo rfl)
    exact .ended report (ends after) (ends before)

theorem leads_of_mem_descriptions (keeps : disk.KeepsFiles leads) {file directory : String}
    (member : file ∈ disk.descriptions before directory) :
    ∃ input, leads before file = some input := by
  rw [Disk.descriptions] at member
  split at member
  · cases member
  · have present := (List.mem_filter.mp member).2
    rw [Bool.and_eq_true, keeps.present] at present
    exact Option.isSome_iff_exists.mp present.2

/-- No run changes its inputs but by trying to write contracts over them. Whether a file or a
directory is compiled, every file keeps its content unless a contract was tried to be written to it,
and each try is told in the report. The report on a directory is made of one part for each of its
descriptions in order. The part of a description that was not tried before is what it gives on its
own, except for how the writing of its contract ended. -/
theorem compile_keeps_inputs (disk : Disk (StateM σ)) (leads : σ → String → Option File)
    (keeps : disk.KeepsFiles leads) (before : σ) :
    (∀ file, let run := ofFile source disk options file before
      Tries disk leads before (triedAt source disk options (file, before)).toList run.1 run.2) ∧
    ∀ directory,
      let run := ofDirectory source disk options directory before
      let files := disk.descriptions before directory
      let parts := stages source disk options before files
      Tries disk leads before (parts.filterMap (triedAt source disk options)) run.1 run.2 ∧
      (∀ fault, (disk.list directory before).1 = .error fault →
        run.1 = Report.empty.addIssue (.unreadableDirectory directory fault)) ∧
      (∀ names, (disk.list directory before).1 = .ok names → parts.map Prod.fst = files ∧
        run.1 = (parts.map (stageReport source disk options)).foldl Report.merge .empty) ∧
      ∀ front file middle behind, parts = front ++ (file, middle) :: behind →
        ∃ input, leads before file = some input ∧
          ((∀ earlier ∈ front, ∀ name ∈ triedAt source disk options earlier,
              leads middle name ≠ some input) →
            SameButWriting file (stageReport source disk options (file, middle))
              (ofFile source disk options file before).1) := by
  refine ⟨fun file => tries_ofFile keeps source options file before, fun directory => ?_⟩
  have ran := ofDirectory_eq keeps.toLooks source options directory before
  refine ⟨?_, fun fault refused => ?_, fun names listed => ⟨?_, ?_⟩, ?_⟩
  · rw [ran]
    cases listed : (disk.list directory before).1 with
    | error fault =>
      rw [Disk.descriptions, listed]
      exact .nothing disk leads before _
    | ok names => exact tries_ofFiles keeps source options _ (.nothing disk leads before _)
  · rw [ran, refused]
  · exact map_fst_stages source disk options before _
  · rw [ran, listed]
    exact report_ofFiles source disk options .empty before _
  · intro front file middle behind staged
    have member : file ∈ disk.descriptions before directory := by
      rw [← map_fst_stages source disk options before (disk.descriptions before directory), staged,
        List.map_append]
      exact List.mem_append_right _ List.mem_cons_self
    obtain ⟨input, here⟩ := leads_of_mem_descriptions keeps member
    refine ⟨input, here, fun apart => sameButWriting_of_readText source options keeps ?_⟩
    refine Disk.readText_of_read keeps.toLooks ?_
    have kept := keeps_of_stage keeps source options staged
    refine kept.contents file input here fun name tried => ?_
    obtain ⟨earlier, among, tried⟩ := List.mem_filterMap.mp tried
    exact apart earlier among name tried

/-- Two descriptions are compiled on a device that has room for the contract of the first one. Where
the contracts go other files lie, and both are tried. The descriptions are kept, and the second one
gives what it gives on its own. -/
theorem compile_keeps_inputs_of_little_room :
    let source : ExampleSource := ⟨fun _ => 0, default⟩
    let text (consumer provider : String) : ByteArray := ("\x7b\"consumer\":\"" ++ consumer ++
      "\",\"provider\":\"" ++ provider ++ "\",\"interactions\":[]\x7d").toUTF8
    let options : CompileOptions := { outputDirectory := some "out" }
    let tree : FileTree := ⟨[(["in"], .directory), (["in", "a.json"], .file (text "a" "b")),
      (["in", "c.json"], .file (text "c" "d")), (["out"], .directory),
      (["out", "a-b.json"], .file "old".toUTF8), (["out", "c-d.json"], .file "old".toUTF8)], []⟩
    let device : Device := ⟨tree, 300⟩
    let run := ofDirectory source Device.disk options "in" device
    let tried := ["out/a-b.json", "out/c-d.json"]
    Device.disk.KeepsFiles (fun device => device.tree.leads) ∧
    ∃ middle, stages source Device.disk options device ["in/a.json", "in/c.json"] =
        [("in/a.json", device), ("in/c.json", middle)] ∧
      (∀ name ∈ tried, run.1.Tells name) ∧
      (∀ name ∈ ["in/a.json", "in/c.json"], run.2.tree.read name = device.tree.read name) ∧
      SameButWriting "in/c.json" (stageReport source Device.disk options ("in/c.json", middle))
        (ofFile source Device.disk options "in/c.json" device).1 := by
  intro source text options tree device run tried
  obtain ⟨-, ofDirectory⟩ :=
    compile_keeps_inputs source options Device.disk _ Device.keepsFiles_disk device
  obtain ⟨⟨kept, told⟩, -, -, parts⟩ := ofDirectory "in"
  have listed : (Device.disk.list "in" device).1 = .ok ["a.json", "c.json"] := by decide +kernel
  have files : Device.disk.descriptions device "in" = ["in/a.json", "in/c.json"] :=
    (Disk.descriptions_of_sorted listed (by decide)).trans (by decide +kernel)
  have tries : (stages source Device.disk options device ["in/a.json", "in/c.json"]).filterMap
      (triedAt source Device.disk options) = tried := by decide +kernel
  rw [files] at kept told parts
  rw [tries] at kept told
  have inputs : ∀ name ∈ ["in/a.json", "in/c.json"], ∃ input,
      device.tree.leads name = some input ∧ input.head? = some "in" := by decide +kernel
  have outputs : ∀ name ∈ tried, ∃ output,
      device.tree.leads name = some output ∧ output.head? = some "out" := by decide +kernel
  have apart {input output : FileLocation} (inside : input.head? = some "in")
      (outside : output.head? = some "out") : output ≠ input := by
    rintro rfl
    exact absurd (inside.symm.trans outside) (by decide)
  obtain ⟨input, here, own⟩ := parts [("in/a.json", device)] "in/c.json" _ [] rfl
  refine ⟨Device.keepsFiles_disk, _, rfl, told, ?_, own ?_⟩
  · intro name member
    obtain ⟨input, here, inside⟩ := inputs name member
    refine kept.contents name input here fun other among same => ?_
    obtain ⟨output, there, outside⟩ := outputs other among
    exact apart inside outside (Option.some.inj ((kept.names other output there).symm.trans same))
  · refine List.forall_mem_singleton.mpr fun name first same => ?_
    have among : name ∈ tried := by
      rw [← tries]
      exact List.mem_filterMap.mpr ⟨("in/a.json", device), List.mem_cons_self, first⟩
    obtain ⟨output, there, outside⟩ := outputs name among
    obtain ⟨input', here', inside⟩ := inputs "in/c.json" (by decide)
    obtain rfl := Option.some.inj (here.symm.trans here')
    have earlier := tries_ofFile Device.keepsFiles_disk source options "in/a.json" device
    exact apart inside outside
      (Option.some.inj ((earlier.keeps.names name output there).symm.trans same))

/-- A contract is written over a file that is no JSON, and its content is lost. On a device without
room the contract is refused, but the file has been opened for it and keeps only as much of the
contract as it was long, so that another error is reported about it than on its own. On a device
with room for one contract the second one is refused, which would be written alone. -/
theorem ofDirectory_changes_inputs :
    let source : ExampleSource := ⟨fun _ => 0, default⟩
    let text (consumer provider : String) : ByteArray := ("\x7b\"consumer\":\"" ++ consumer ++
      "\",\"provider\":\"" ++ provider ++ "\",\"interactions\":[]\x7d").toUTF8
    (let options : CompileOptions := { outputDirectory := some "in" }
      let tree : FileTree := ⟨[(["in"], .directory), (["in", "a.json"], .file (text "b" "c")),
        (["in", "b-c.json"], .file "none".toUTF8)], []⟩
      let run := ofFile source FileTree.disk options "in/a.json" tree
      let full := ofDirectory source Device.disk options "in" ⟨tree, 0⟩
      let alone := ofFile source Device.disk options "in/b-c.json" ⟨tree, 0⟩
      tree.read "in/b-c.json" = .ok "none".toUTF8 ∧
        (run.1.contracts = ["in/b-c.json"] ∧ run.2.read "in/b-c.json" ≠ .ok "none".toUTF8) ∧
        full.1.contracts = [] ∧ full.2.tree.read "in/b-c.json" ≠ .ok "none".toUTF8 ∧
          full.1.withCode "E002" ≠ alone.1.withCode "E002") ∧
    (let options : CompileOptions := { outputDirectory := some "out" }
      let tree : FileTree := ⟨[(["in"], .directory), (["in", "a.json"], .file (text "a" "b")),
        (["in", "c.json"], .file (text "c" "d"))], []⟩
      let run := ofDirectory source Device.disk options "in" ⟨tree, 300⟩
      let alone := ofFile source Device.disk options "in/c.json" ⟨tree, 300⟩
      alone.1.contracts = ["out/c-d.json"] ∧ run.1.contracts = ["out/a-b.json"] ∧
        run.1.withCode "E020" =
          [.notWritten "in/c.json" (.refused ⟨"out/c-d.json", Device.noRoom⟩)]) := by
  intro source text
  constructor
  · intro options tree run full alone
    have listed : (Device.disk.list "in" ⟨tree, 0⟩).1 = .ok ["a.json", "b-c.json"] := by
      decide +kernel
    have ran : full = _ :=
      ofDirectory_of_sorted Device.keepsFiles_disk.toLooks source options listed (by decide)
    rw [ran]
    decide +kernel
  · intro options tree run alone
    have listed : (Device.disk.list "in" ⟨tree, 300⟩).1 = .ok ["a.json", "c.json"] := by
      decide +kernel
    have ran : run = _ :=
      ofDirectory_of_sorted Device.keepsFiles_disk.toLooks source options listed (by decide)
    rw [ran]
    decide +kernel

end Compilation

end ConsumerContract
