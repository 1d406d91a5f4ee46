/-
This file says what a run over the files of a directory leaves. Each file is compiled in the tree
that the files before it have left, and writes at most one contract. The whole run makes directories
and writes these contracts in their order, so that a contract's file holds what has been written
to its place last. No contract is lost exactly if no two of them with different contents have one
place, and no two have one name.
-/

import Mathlib.Data.List.Nodup
import ConsumerContract.Proofs.KeptFiles
import ConsumerContract.Proofs.Planned

namespace ConsumerContract

open FileName (join)

/-- A contract that has been written for a file. -/
structure WrittenContract where
  /-- The file with the description. -/
  file : String
  /-- The file of the contract. -/
  name : String
  document : Document

/-- The participants have no slash in their names. -/
def Document.IsPlain (document : Document) : Prop :=
  '/' ∉ document.consumer.toList ∧ '/' ∉ document.provider.toList

/-- Where the contract is and what is written there. -/
def WrittenContract.entry (contract : WrittenContract) (tree : FileTree) :
    FileLocation × ByteArray :=
  (tree.target contract.name, contract.document.toJson.pretty.toUTF8)

namespace Compilation

/-! ### One file -/

/-- The contract that is written for a file of a tree. -/
def writtenBy (source : ExampleSource) (options : CompileOptions) (file : String)
    (tree : FileTree) : Option WrittenContract :=
  (plan source options file (FileTree.disk.readText file tree).1).contract.bind
    fun (directory, document) =>
      (document.writeTo FileTree.disk directory tree).1.toOption.map (⟨file, ·, document⟩)

end Compilation

/-- A run has written these contracts, and nothing else besides directories, and reports them. -/
structure Adds (before : FileTree) (written : List WrittenContract) (report : Report)
    (after : FileTree) : Prop where
  contracts : report.contracts = written.map (·.name)
  told : report.withCode "I001" =
    written.map fun contract => .written contract.file contract.name
  writes : before.Writes after (written.map (·.entry before))
  reaches : ∀ contract ∈ written, after.Reaches contract.name

/-- The contract is in the directory that is given, under its name, and is the one which the text
of its file in the tree describes. -/
def WrittenContract.IsOwn (source : ExampleSource) (options : CompileOptions)
    (tree : FileTree) (contract : WrittenContract) : Prop :=
  ∃ directory text, options.outputDirectory = some directory ∧
    contract.name = join directory contract.document.fileName ∧
    (FileTree.disk.readText contract.file tree).1 = .ok text ∧
    Compilation.Specifies source options text contract.document

namespace Compilation

theorem ofFile_adds (source : ExampleSource) (options : CompileOptions) (file : String)
    (tree : FileTree) :
    let run := ofFile source FileTree.disk options file tree
    let contract := writtenBy source options file tree
    Adds tree contract.toList run.1 run.2 ∧
      ∀ written ∈ contract, written.file = file ∧ written.IsOwn source options tree := by
  intro run contract
  have opened := FileTree.run_readText file tree
  generalize FileTree.textOf (tree.read file) = content at opened
  obtain ⟨plan, planned, planning, fresh, compiled⟩ := exists_plan source options opened
  have ran : run = plan.run file FileTree.disk tree := compiled
  have chosen : contract = plan.contract.bind fun (directory, document) =>
      (document.writeTo FileTree.disk directory tree).1.toOption.map (⟨file, ·, document⟩) := by
    have unfolded : contract = writtenBy source options file tree := rfl
    rw [unfolded, writtenBy, opened, planned]
  clear compiled planned
  clear_value run contract
  cases planning with
  | blocked reason =>
    subst ran chosen
    obtain ⟨unwritten, others⟩ := fresh
    exact ⟨⟨unwritten, Report.withCode_eq_nil fun issue member => (others issue member).1,
      .refl tree, nofun⟩, nofun⟩
  | ready clean wanted specified =>
    rename_i text directory report document
    rcases wrote : document.writeTo FileTree.disk directory tree with ⟨outcome, after⟩
    have concluded := concluded_of_isFresh file fresh outcome
    dsimp only [Plan.run, Option.bind_some] at ran chosen
    rw [wrote] at ran chosen
    subst ran
    cases concluded with
    | refused contracts untold =>
      obtain rfl : contract = none := chosen
      exact ⟨⟨contracts, untold, FileTree.writes_of_refused wrote, nofun⟩, nofun⟩
    | written contracts told =>
      obtain ⟨named, writes, readable⟩ := FileTree.writes_of_written wrote
      obtain rfl : contract = some ⟨file, _, document⟩ := chosen
      refine ⟨⟨contracts, told, writes, ?_⟩, ?_⟩
      · exact List.forall_mem_singleton.mpr (FileTree.read_eq_ok.mp readable).1
      · rintro _ ⟨⟩
        have given := (target?_eq_some.mp wanted).2
        exact ⟨rfl, directory, text, given, named, by rw [opened], specified⟩

end Compilation

/-! ### Several files -/

theorem WrittenContract.entry_of_grows {before after : FileTree} (grows : before.Grows after)
    (contract : WrittenContract) : contract.entry after = contract.entry before := by
  rw [entry, entry, grows.target]

namespace Adds

variable {before middle after : FileTree} {written others : List WrittenContract}
  {report added : Report}

theorem refl (tree : FileTree) : Adds tree [] .empty tree :=
  ⟨rfl, rfl, .refl tree, nofun⟩

theorem trans (first : Adds before written report middle)
    (second : Adds middle others added after) :
    Adds before (written ++ others) (report.merge added) after := by
  refine ⟨?_, ?_, ?_, ?_⟩
  · rw [List.map_append, ← first.contracts, ← second.contracts]
    rfl
  · rw [List.map_append, ← first.told, ← second.told]
    exact List.filter_append ..
  · have same : others.map (·.entry middle) = others.map (·.entry before) :=
      List.map_congr_left fun contract _ => contract.entry_of_grows first.writes.grows
    rw [List.map_append, ← same]
    exact first.writes.trans second.writes
  · intro contract member
    rcases List.mem_append.mp member with member | member
    · exact second.writes.grows.reaches (first.reaches contract member)
    · exact second.reaches contract member

/-- The file of a contract holds what was written to its place last, by a contract of the run. -/
theorem read (adds : Adds before written report after) {contract : WrittenContract}
    (member : contract ∈ written) :
    ∃ last ∈ written, before.target last.name = before.target contract.name ∧
      FileTree.lastWritten (written.map (·.entry before)) (before.target contract.name) =
        some last.document.toJson.pretty.toUTF8 ∧
      after.read contract.name = .ok last.document.toJson.pretty.toUTF8 := by
  obtain ⟨content, found, among⟩ := FileTree.exists_lastWritten
    (List.mem_map_of_mem (f := fun contract => contract.entry before) member)
  obtain ⟨last, chosen, same⟩ := List.mem_map.mp among
  obtain ⟨place, rfl⟩ := Prod.mk.inj same
  refine ⟨last, chosen, place, found, FileTree.read_eq_ok.mpr ⟨adds.reaches contract member, ?_⟩⟩
  rw [adds.writes.grows.target]
  exact (adds.writes.written _ _ found).1

/-- The contract that was written last is there. -/
theorem read_last {last : WrittenContract} (adds : Adds before (written ++ [last]) report after) :
    after.read last.name = .ok last.document.toJson.pretty.toUTF8 := by
  have member : last ∈ written ++ [last] := List.mem_append_right _ (List.mem_singleton_self last)
  obtain ⟨_, _, _, found, read⟩ := adds.read member
  have later := FileTree.lastWritten_append (written.map (·.entry before)) [last.entry before]
    (before.target last.name)
  rw [WrittenContract.entry, FileTree.lastWritten_singleton_self] at later
  rw [List.map_append, List.map_singleton, WrittenContract.entry, later] at found
  rw [read, ← Option.some.inj found]

end Adds

namespace Compilation

section Stages

variable {σ : Type} (source : ExampleSource) (disk : Disk (StateM σ)) (options : CompileOptions)

/-- The files of a run, each with the state in which it is compiled. -/
def stages (state : σ) : List String → List (String × σ)
  | [] => []
  | file :: rest => (file, state) :: stages (ofFile source disk options file state).2 rest

/-- What is reported at a stage. -/
def stageReport (stage : String × σ) : Report :=
  (ofFile source disk options stage.1 stage.2).1

theorem map_fst_stages (state : σ) (files : List String) :
    (stages source disk options state files).map Prod.fst = files := by
  induction files generalizing state with
  | nil => rfl
  | cons file rest inductionHypothesis =>
    rw [stages, List.map_cons, inductionHypothesis]

theorem ofFiles_cons (report : Report) (file : String) (rest : List String) (state : σ) :
    ofFiles source disk options report (file :: rest) state =
      ofFiles source disk options (report.merge (stageReport source disk options (file, state)))
        rest (ofFile source disk options file state).2 := by
  have compiled : ofFile source disk options file state =
      (stageReport source disk options (file, state),
        (ofFile source disk options file state).2) := rfl
  rw [ofFiles, run_bind compiled]

/-- The report of a run is what is reported at its stages. -/
theorem report_ofFiles (report : Report) (state : σ) (files : List String) :
    (ofFiles source disk options report files state).1 =
      ((stages source disk options state files).map (stageReport source disk options)).foldl
        Report.merge report := by
  induction files generalizing report state with
  | nil => rfl
  | cons file rest inductionHypothesis =>
    rw [ofFiles_cons, inductionHypothesis]
    rfl

end Stages

/-- The contracts that a run writes, in their order. -/
def written (source : ExampleSource) (options : CompileOptions) (tree : FileTree)
    (files : List String) : List WrittenContract :=
  (stages source FileTree.disk options tree files).filterMap fun (file, tree) =>
    writtenBy source options file tree

theorem written_cons (source : ExampleSource) (options : CompileOptions) (tree : FileTree)
    (file : String) (rest : List String) :
    written source options tree (file :: rest) =
      (writtenBy source options file tree).toList ++
        written source options (ofFile source FileTree.disk options file tree).2 rest := by
  rw [written, stages, List.filterMap_cons]
  dsimp only
  cases writtenBy source options file tree <;> rfl

theorem ofFiles_adds (source : ExampleSource) (options : CompileOptions) (files : List String)
    {before tree : FileTree} {contracts : List WrittenContract} {report : Report}
    (adds : Adds before contracts report tree) :
    let run := ofFiles source FileTree.disk options report files tree
    Adds before (contracts ++ written source options tree files) run.1 run.2 := by
  induction files generalizing contracts report tree with
  | nil =>
    rw [written, stages, List.filterMap_nil, List.append_nil]
    exact adds
  | cons file rest inductionHypothesis =>
    rw [ofFiles_cons, written_cons, ← List.append_assoc]
    exact inductionHypothesis (adds.trans (ofFile_adds source options file tree).1)

variable {source : ExampleSource} {options : CompileOptions}

/-- A written contract is the own one of its file, in the tree of its stage. -/
theorem own_of_mem_written {files : List String} {tree : FileTree} {contract : WrittenContract}
    (member : contract ∈ written source options tree files) :
    ∃ before, (contract.file, before) ∈ stages source FileTree.disk options tree files ∧
      contract.IsOwn source options before := by
  obtain ⟨⟨file, before⟩, stage, wrote⟩ := List.mem_filterMap.mp member
  obtain ⟨rfl, own⟩ := (ofFile_adds source options file before).2 contract wrote
  exact ⟨before, stage, own⟩

end Compilation

/-! ### Directories -/

/-- The descriptions that lie directly in a directory, in the order of their names. -/
def Disk.descriptions {σ : Type} (disk : Disk (StateM σ)) (state : σ) (directory : String) :
    List String :=
  match (disk.list directory state).1 with
  | .error _ => []
  | .ok names => ((names.mergeSort (· ≤ ·)).map (join directory)).filter fun file =>
      FileName.extension? file = some "json" && (disk.isFile file state).1

/-- The descriptions in a directory of a tree. -/
def FileTree.descriptions (tree : FileTree) (directory : String) : List String :=
  FileTree.disk.descriptions tree directory

theorem FileTree.descriptions_eq (tree : FileTree) (directory : String) :
    tree.descriptions directory =
      match tree.list directory with
      | .error _ => []
      | .ok names => ((names.mergeSort (· ≤ ·)).map (join directory)).filter fun file =>
          FileName.extension? file = some "json" && tree.isFile file :=
  rfl

/-- Names that are listed in order need no sorting. -/
theorem Disk.descriptions_of_sorted {σ : Type} {disk : Disk (StateM σ)} {state : σ}
    {directory : String} {names : List String} (listed : (disk.list directory state).1 = .ok names)
    (sorted : names.Pairwise fun first second => decide (first ≤ second) = true) :
    disk.descriptions state directory = (names.map (join directory)).filter fun file =>
      FileName.extension? file = some "json" && (disk.isFile file state).1 := by
  rw [descriptions, listed]
  dsimp only
  rw [List.mergeSort_of_pairwise sorted]

namespace Compilation

theorem run_descriptionFiles {σ : Type} {disk : Disk (StateM σ)} (looks : disk.Looks)
    (directory : String) (names : List String) (state : σ) :
    descriptionFiles disk directory names state =
      ((names.map (join directory)).filter fun file =>
        FileName.extension? file = some "json" && (disk.isFile file state).1, state) := by
  induction names with
  | nil => rfl
  | cons name rest inductionHypothesis =>
    rw [descriptionFiles, run_bind inductionHypothesis, List.map_cons, List.filter_cons]
    by_cases extension : FileName.extension? (join directory name) = some "json"
    · have asked : disk.isFile (join directory name) state =
          ((disk.isFile (join directory name) state).1, state) :=
        Prod.ext rfl (looks.isFile _ state)
      rw [if_pos extension, run_bind asked, decide_eq_true extension, Bool.true_and]
      split <;> rfl
    · rw [if_neg extension, decide_eq_false extension]
      rfl

/-- To compile a directory is to compile its descriptions one after the other. -/
theorem ofDirectory_eq {σ : Type} {disk : Disk (StateM σ)} (looks : disk.Looks)
    (source : ExampleSource) (options : CompileOptions) (directory : String) (state : σ) :
    ofDirectory source disk options directory state =
      match (disk.list directory state).1 with
      | .error fault => (Report.empty.addIssue (.unreadableDirectory directory fault), state)
      | .ok _ => ofFiles source disk options .empty (disk.descriptions state directory) state := by
  have asked : disk.list directory state = ((disk.list directory state).1, state) :=
    Prod.ext rfl (looks.list directory state)
  rw [ofDirectory, run_bind asked, Disk.descriptions]
  cases (disk.list directory state).1 with
  | error fault => rfl
  | ok names =>
    dsimp only
    rw [run_bind (run_descriptionFiles looks directory _ state)]

/-- Where the names are listed in order, the descriptions among them are compiled in that order. -/
theorem ofDirectory_of_sorted {σ : Type} {disk : Disk (StateM σ)} (looks : disk.Looks)
    (source : ExampleSource) (options : CompileOptions) {directory : String} {names : List String}
    {state : σ} (listed : (disk.list directory state).1 = .ok names)
    (sorted : names.Pairwise fun first second => decide (first ≤ second) = true) :
    ofDirectory source disk options directory state =
      ofFiles source disk options .empty ((names.map (join directory)).filter fun file =>
        FileName.extension? file = some "json" && (disk.isFile file state).1) state := by
  rw [ofDirectory_eq looks, listed]
  dsimp only
  rw [Disk.descriptions_of_sorted listed sorted]

theorem run_ofDirectory (source : ExampleSource) (options : CompileOptions) (directory : String)
    (tree : FileTree) :
    ofDirectory source FileTree.disk options directory tree =
      match tree.list directory with
      | .error fault => (Report.empty.addIssue (.unreadableDirectory directory fault), tree)
      | .ok _ =>
        ofFiles source FileTree.disk options .empty (tree.descriptions directory) tree :=
  ofDirectory_eq FileTree.keepsFiles_disk.toLooks source options directory tree

theorem run_ofDirectory_of_listed (source : ExampleSource) (options : CompileOptions)
    {directory : String} {names : List String} {tree : FileTree}
    (listed : tree.list directory = .ok names) :
    ofDirectory source FileTree.disk options directory tree =
      ofFiles source FileTree.disk options .empty (tree.descriptions directory) tree := by
  rw [run_ofDirectory, listed]

/-- A run over a directory writes the contracts of its descriptions. -/
theorem ofDirectory_adds (source : ExampleSource) (options : CompileOptions) (directory : String)
    (tree : FileTree) :
    let run := ofDirectory source FileTree.disk options directory tree
    Adds tree (written source options tree (tree.descriptions directory)) run.1 run.2 := by
  rw [run_ofDirectory]
  cases listed : tree.list directory with
  | error fault =>
    rw [FileTree.descriptions_eq, listed]
    refine ⟨rfl, ?_, .refl tree, nofun⟩
    exact Report.withCode_eq_nil
      (List.forall_mem_singleton.mpr (by simp [Issue.unreadableDirectory]))
  | ok names => exact ofFiles_adds source options _ (.refl tree)

/-- No two contracts have one name, and each of their files holds its contract. -/
def KeepsAll (written : List WrittenContract) (report : Report) (after : FileTree) : Prop :=
  report.contracts.Nodup ∧
    ∀ contract ∈ written, after.read contract.name = .ok contract.document.toJson.pretty.toUTF8

theorem keepsAll_iff {written : List WrittenContract} {report : Report} {tree after : FileTree}
    (adds : Adds tree written report after) :
    KeepsAll written report after ↔ (written.map (·.name)).Nodup ∧
      ∀ first ∈ written, ∀ second ∈ written, tree.target first.name = tree.target second.name →
        first.document.toJson.pretty = second.document.toJson.pretty := by
  rw [KeepsAll, adds.contracts]
  refine and_congr_right fun _ => ⟨fun kept first member second member' same => ?_,
    fun agree contract member => ?_⟩
  · -- The place of both holds one text.
    obtain ⟨last, _, _, found, read⟩ := adds.read member
    obtain ⟨last', _, _, found', read'⟩ := adds.read member'
    rw [same, found'] at found
    rw [← String.toByteArray_inj]
    rw [kept first member] at read
    rw [kept second member'] at read'
    exact (Except.ok.inj read).trans
      ((Option.some.inj found).symm.trans (Except.ok.inj read').symm)
  · obtain ⟨last, among, same, _, read⟩ := adds.read member
    rw [read, agree last among contract member same]

/-- Contracts without slashes in their names have one place only if they have one name. -/
theorem name_eq_of_target_eq {first second : WrittenContract} {tree before before' : FileTree}
    (own : first.IsOwn source options before) (own' : second.IsOwn source options before')
    (plain : first.document.IsPlain) (plain' : second.document.IsPlain)
    (same : tree.target first.name = tree.target second.name) : first.name = second.name := by
  obtain ⟨directory, _, given, named, _⟩ := own
  obtain ⟨directory', _, given', named', _⟩ := own'
  obtain rfl := Option.some.inj (given.symm.trans given')
  rw [named, named', Document.target_of_plain plain.1 plain.2,
    Document.target_of_plain plain'.1 plain'.2] at same
  rw [named, named', List.singleton_inj.mp (List.append_cancel_left same)]

/-- What a run over a directory writes and what is left of it. The contracts in the report and in
its issues are those written for the descriptions in their order, each with all interactions of the
description it was written for. The file of each holds what was written to its place last. So the
names are pairwise different and every file holds its own contract exactly if the names are, and
no two contracts with different contents have one place; for participants without slashes the
names decide alone. -/
theorem ofDirectory_keepsAll_iff (source : ExampleSource) (options : CompileOptions)
    (directory : String) (tree : FileTree) :
    let run := ofDirectory source FileTree.disk options directory tree
    let files := tree.descriptions directory
    let contracts := written source options tree files
    run.1.contracts = contracts.map (·.name) ∧
      run.1.withCode "I001" =
        contracts.map (fun contract => .written contract.file contract.name) ∧
      (∀ contract ∈ contracts, ∃ before,
        (contract.file, before) ∈ stages source FileTree.disk options tree files ∧
          contract.IsOwn source options before) ∧
      (∀ contract ∈ contracts, (run.2.read contract.name).toOption =
        FileTree.lastWritten (contracts.map (·.entry tree)) (tree.target contract.name)) ∧
      (KeepsAll contracts run.1 run.2 ↔ run.1.contracts.Nodup ∧
        ∀ first ∈ contracts, ∀ second ∈ contracts,
          tree.target first.name = tree.target second.name →
            first.document.toJson.pretty = second.document.toJson.pretty) ∧
      ((∀ contract ∈ contracts, contract.document.IsPlain) →
        (KeepsAll contracts run.1 run.2 ↔ run.1.contracts.Nodup)) := by
  intro run files contracts
  have adds : Adds tree contracts run.1 run.2 := ofDirectory_adds source options directory tree
  have keeps := keepsAll_iff adds
  rw [← adds.contracts] at keeps
  have own : ∀ contract ∈ contracts, ∃ before, (contract.file, before) ∈
      stages source FileTree.disk options tree files ∧ contract.IsOwn source options before :=
    fun contract member => own_of_mem_written member
  refine ⟨adds.contracts, adds.told, own, fun contract member => ?_, keeps, fun plain => ?_⟩
  · obtain ⟨last, _, _, found, read⟩ := adds.read member
    rw [found, read]
    rfl
  · refine keeps.trans ⟨And.left, fun apart => ⟨apart, fun first member second member' same => ?_⟩⟩
    obtain ⟨_, _, ownFirst⟩ := own first member
    obtain ⟨_, _, ownSecond⟩ := own second member'
    have names := name_eq_of_target_eq ownFirst ownSecond (plain first member)
      (plain second member') same
    rw [adds.contracts] at apart
    rw [List.inj_on_of_nodup_map apart member member' names]

/-- Two pairs of participants whose names give the same text when they are joined by a hyphen. Both
contracts are reported as written to the same file, which then holds the second one. -/
theorem ofDirectory_loses_contract :
    let source : ExampleSource := ⟨fun _ => 0, default⟩
    let options : CompileOptions := { outputDirectory := some "out" }
    let text (consumer provider : String) : String := "\x7b\"consumer\":\"" ++ consumer ++
      "\",\"provider\":\"" ++ provider ++ "\",\"interactions\":[]\x7d"
    let tree : FileTree := ⟨[(["in"], .directory),
      (["in", "a.json"], .file (text "a-b" "c").toUTF8),
      (["in", "b.json"], .file (text "a" "b-c").toUTF8)], []⟩
    let name := "out/a-b-c.json"
    let run := ofDirectory source FileTree.disk options "in" tree
    ∃ first second : WrittenContract,
      written source options tree (tree.descriptions "in") = [first, second] ∧
      first.document.consumer = "a-b" ∧ second.document.consumer = "a" ∧
      run.1.contracts = [name, name] ∧
      run.1.withCode "I001" = [.written "in/a.json" name, .written "in/b.json" name] ∧
      run.2.read name = .ok second.document.toJson.pretty.toUTF8 ∧
      first.document.toJson.pretty ≠ second.document.toJson.pretty ∧
      ¬ KeepsAll [first, second] run.1 run.2 := by
  intro source options text tree name run
  have listed : (FileTree.disk.list "in" tree).1 = .ok ["a.json", "b.json"] := by decide +kernel
  have files : tree.descriptions "in" = ["in/a.json", "in/b.json"] :=
    (Disk.descriptions_of_sorted listed (by decide)).trans (by decide +kernel)
  have told : (written source options tree ["in/a.json", "in/b.json"]).map (fun contract =>
        (contract.file, contract.name, contract.document.consumer)) =
      [("in/a.json", name, "a-b"), ("in/b.json", name, "a")] := by decide +kernel
  have apart : ((written source options tree ["in/a.json", "in/b.json"]).map
      (·.document.toJson.pretty)).Nodup := by decide +kernel
  have adds : Adds tree (written source options tree (tree.descriptions "in")) run.1 run.2 :=
    ofDirectory_adds source options "in" tree
  rw [files] at adds ⊢
  generalize written source options tree ["in/a.json", "in/b.json"] = contracts
    at told apart adds ⊢
  clear_value run name tree
  obtain ⟨first, others, rfl, same, told⟩ := List.map_eq_cons_iff.mp told
  obtain ⟨second, others, rfl, same', told⟩ := List.map_eq_cons_iff.mp told
  obtain rfl := List.map_eq_nil_iff.mp told
  obtain ⟨file, rest⟩ := Prod.mk.inj same
  obtain ⟨rfl, consumer⟩ := Prod.mk.inj rest
  obtain ⟨file', rest⟩ := Prod.mk.inj same'
  obtain ⟨named, consumer'⟩ := Prod.mk.inj rest
  have contracts : run.1.contracts = [first.name, first.name] := by
    rw [adds.contracts, List.map_cons, List.map_singleton, named]
  refine ⟨first, second, rfl, consumer, consumer', contracts, ?_, ?_, ?_, fun keeps => ?_⟩
  · rw [adds.told, List.map_cons, List.map_singleton, file, file', named]
  · rw [← named]
    have adds : Adds tree ([first] ++ [second]) run.1 run.2 := adds
    exact adds.read_last
  · exact fun same => (List.nodup_cons.mp apart).1 (List.mem_singleton.mpr same)
  · rw [KeepsAll, contracts] at keeps
    exact (List.nodup_cons.mp keeps.1).1 (List.mem_singleton_self _)

end Compilation

end ConsumerContract
