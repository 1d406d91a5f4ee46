/-
This file proves that the report on a directory is the sum of the reports on its files. The order in
which the directory is listed is of no account, because the names are sorted before anything else is
done with them. Where no contract is written each file is compiled in one and the same tree, so that
its part of the report is what it gives alone.

The numbers of errors and warnings are never counted again after an issue has been added. They are
right because adding and merging keep them right, and no report is made in another way; so the exit
status, which only looks at a number, tells whether an error is among the issues.
-/

import Mathlib.Algebra.GroupWithZero.Nat
import ConsumerContract.CommandLine.Run
import ConsumerContract.Proofs.KeptContracts

namespace ConsumerContract

open FileName (join isAbsolute)

/-! ### Numbers of issues -/

namespace Report

/-- The report has been made of issues and of reports that were made in this way. Whatever is not
about issues may have been set besides. -/
inductive IsMade : Report → Prop
  | empty : IsMade .empty
  | addIssue {report : Report} (made : report.IsMade) (issue : Issue) :
      IsMade (report.addIssue issue)
  | merge {report other : Report} (made : report.IsMade) (made' : other.IsMade) :
      IsMade (report.merge other)
  | withTotals {report : Report} (made : report.IsMade) (filesChecked interactionsCompiled : Nat)
      (contracts : List String) :
      IsMade { report with filesChecked, interactionsCompiled, contracts }

/-- The numbers of errors and warnings are those of the issues. -/
structure CountsIssues (report : Report) : Prop where
  errors : report.errors = report.issues.countP (·.severity = .error)
  warnings : report.warnings = report.issues.countP (·.severity = .warning)

theorem CountsIssues.addIssue {report : Report} (counts : report.CountsIssues) (issue : Issue) :
    (report.addIssue issue).CountsIssues := by
  have added : report.addIssue issue = report.addIssues [issue] := rfl
  rw [added, addIssues_eq]
  refine ⟨?_, ?_⟩
  · rw [List.countP_append, counts.errors]
  · rw [List.countP_append, counts.warnings]

theorem IsMade.countsIssues {report : Report} (made : report.IsMade) : report.CountsIssues := by
  induction made with
  | empty => exact ⟨rfl, rfl⟩
  | addIssue _ issue inductionHypothesis => exact inductionHypothesis.addIssue issue
  | merge _ _ first second =>
    refine ⟨?_, ?_⟩
    · rw [Report.merge, List.countP_append, first.errors, second.errors]
    · rw [Report.merge, List.countP_append, first.warnings, second.warnings]
  | withTotals _ _ _ _ inductionHypothesis =>
    exact ⟨inductionHypothesis.errors, inductionHypothesis.warnings⟩

theorem IsMade.addIssues {report : Report} (made : report.IsMade) (issues : List Issue) :
    (report.addIssues issues).IsMade := by
  induction issues generalizing report with
  | nil => exact made
  | cons issue rest inductionHypothesis => exact inductionHypothesis (made.addIssue issue)

theorem CountsIssues.hasErrors_iff {report : Report} (counts : report.CountsIssues) :
    report.hasErrors = true ↔ ∃ issue ∈ report.issues, issue.severity = .error := by
  rw [hasErrors, decide_eq_true_iff, counts.errors, List.countP_pos_iff]
  simp only [decide_eq_true_eq]

/-! ### Sums -/

/-- What is said about issues, files and interactions is put together from the parts, in their
order. -/
structure IsSumOf (report : Report) (parts : List Report) : Prop where
  issues : report.issues = parts.flatMap (·.issues)
  filesChecked : report.filesChecked = (parts.map (·.filesChecked)).sum
  interactionsCompiled : report.interactionsCompiled = (parts.map (·.interactionsCompiled)).sum

theorem isSumOf_foldl_merge (parts : List Report) :
    (parts.foldl merge .empty).IsSumOf parts := by
  induction parts using List.reverseRecOn with
  | nil => exact ⟨rfl, rfl, rfl⟩
  | append_singleton parts part inductionHypothesis =>
    rw [List.foldl_concat]
    refine ⟨?_, ?_, ?_⟩
    · rw [merge, inductionHypothesis.issues, List.flatMap_append, List.flatMap_singleton]
    · rw [merge, inductionHypothesis.filesChecked, List.map_append, List.sum_append,
        List.map_singleton, List.sum_singleton]
    · rw [merge, inductionHypothesis.interactionsCompiled, List.map_append, List.sum_append,
        List.map_singleton, List.sum_singleton]

end Report

/-! ### Reports that are made by compiling -/

namespace Compilation

variable {σ : Type} (source : ExampleSource) (disk : Disk (StateM σ)) (options : CompileOptions)

theorem isMade_start : start.IsMade :=
  Report.IsMade.empty.withTotals 1 0 []

theorem isMade_addTo (reading : DescriptionReading) (file : String) :
    (reading.addTo file start).IsMade :=
  (isMade_start.addIssues _).withTotals _ _ _

theorem isMade_plan (file : String) (content : Except FileFault String) :
    (plan source options file content).report.IsMade := by
  cases content with
  | error fault => exact isMade_start.addIssue (.unreadableFile file fault)
  | ok text =>
    rw [plan]
    cases Json.parse text with
    | error problem => exact isMade_start.addIssue (.notJson file problem _)
    | ok description => exact isMade_addTo _ file

theorem isMade_conclude (file : String) {report : Report} (made : report.IsMade)
    (outcome : Except FileRefusal String) : (conclude file report outcome).IsMade := by
  cases outcome with
  | ok name => exact (made.addIssue _).withTotals _ _ _
  | error refusal => exact made.addIssue (.notWritten file (.refused refusal))

theorem isMade_ofFile (file : String) (before : σ) :
    (ofFile source disk options file before).1.IsMade := by
  rcases opened : disk.readText file before with ⟨content, read⟩
  have made := isMade_plan source options file content
  rw [run_ofFile source options opened, Plan.run]
  cases (plan source options file content).contract with
  | none => exact made
  | some target => exact isMade_conclude file made _

theorem isMade_ofFiles {report : Report} (made : report.IsMade) (files : List String)
    (before : σ) : (ofFiles source disk options report files before).1.IsMade := by
  induction files generalizing report before with
  | nil => exact made
  | cons file rest inductionHypothesis =>
    have added := isMade_ofFile source disk options file before
    rcases compiled : ofFile source disk options file before with ⟨report', after⟩
    rw [compiled] at added
    rw [ofFiles, run_bind compiled]
    exact inductionHypothesis (made.merge added) after

theorem isMade_ofDirectory (directory : String) (before : σ) :
    (ofDirectory source disk options directory before).1.IsMade := by
  rcases listed : disk.list directory before with ⟨names, after⟩
  rw [ofDirectory, run_bind listed]
  cases names with
  | error fault => exact Report.IsMade.empty.addIssue (.unreadableDirectory directory fault)
  | ok names =>
    dsimp only
    rcases found : descriptionFiles disk directory (names.mergeSort (· ≤ ·)) after with ⟨files, _⟩
    rw [run_bind found]
    exact isMade_ofFiles source disk options .empty files _

end Compilation

theorem Arguments.isMade_compile (arguments : Arguments) (source : ExampleSource) {σ : Type}
    (disk : Disk (StateM σ)) (settings : Settings) (before : σ) :
    (arguments.compile source disk settings before).1.IsMade := by
  rcases asked : disk.isDirectory arguments.path before with ⟨isDirectory, after⟩
  rw [compile, run_bind asked]
  split
  · exact Compilation.isMade_ofDirectory source disk _ arguments.path after
  · exact Compilation.isMade_ofFile source disk _ arguments.path after

/-- The status tells whether there was an error. -/
theorem Arguments.status_outcome (arguments : Arguments) {report : Report}
    (made : report.IsMade) :
    (arguments.outcome report).status ≠ 0 ↔ ∃ issue ∈ report.issues, issue.severity = .error := by
  have status : (arguments.outcome report).status = if report.hasErrors then 1 else 0 := rfl
  rw [← made.countsIssues.hasErrors_iff, status]
  cases report.hasErrors with
  | true => decide
  | false => decide

/-- With arguments and settings that are in order, a run of the command compiles and shows the
report. -/
theorem run_runCommand {σ : Type} {source : ExampleSource} {disk : Disk (StateM σ)}
    {environment : Environment} {given : List String} {arguments : Arguments}
    {settings : Settings} {before middle : σ}
    (read : Arguments.ofList environment given = .ok arguments)
    (set : arguments.settings disk environment before = (.ok settings, middle)) :
    runCommand source disk environment given before =
      (arguments.outcome (arguments.compile source disk settings middle).1,
        (arguments.compile source disk settings middle).2) := by
  rw [runCommand, read]
  dsimp only
  rw [run_bind set]
  rfl

/-! ### The order of a listing -/

/-- Both say what is in one directory: the same names in some order, or why it can not be listed. -/
inductive SameListing : Except FileFault (List String) → Except FileFault (List String) → Prop
  | refused (fault : FileFault) : SameListing (.error fault) (.error fault)
  | listed {names others : List String} (perm : names.Perm others) :
      SameListing (.ok names) (.ok others)

theorem pairwise_mergeSort (names : List String) :
    (names.mergeSort (· ≤ ·)).Pairwise (· ≤ ·) := by
  have transitive (first second third : String) (before : decide (first ≤ second) = true)
      (behind : decide (second ≤ third) = true) : decide (first ≤ third) = true :=
    decide_eq_true (String.le_trans (of_decide_eq_true before) (of_decide_eq_true behind))
  have total (first second : String) :
      (decide (first ≤ second) || decide (second ≤ first)) = true := by
    rw [Bool.or_eq_true, decide_eq_true_iff, decide_eq_true_iff]
    exact String.le_total first second
  exact (List.pairwise_mergeSort transitive total names).imp of_decide_eq_true

/-- Sorted names do not show in which order they came. -/
theorem mergeSort_eq_of_perm {names others : List String} (perm : names.Perm others) :
    names.mergeSort (· ≤ ·) = others.mergeSort (· ≤ ·) := by
  have same : (names.mergeSort (· ≤ ·)).Perm (others.mergeSort (· ≤ ·)) :=
    (List.mergeSort_perm _ _).trans (perm.trans (List.mergeSort_perm _ _).symm)
  exact same.eq_of_pairwise (fun _ _ _ _ before behind => String.le_antisymm before behind)
    (pairwise_mergeSort names) (pairwise_mergeSort others)

section Listing

variable {σ : Type} {disk : Disk (StateM σ)}
  {listing : String → StateM σ (Except FileFault (List String))}

/-- To write a contract nothing is listed. -/
theorem Document.writeTo_of_listing (document : Document) (directory : String) :
    document.writeTo { disk with list := listing } directory =
      document.writeTo disk directory := by
  have lineage (names : List String) :
      Disk.makeLineage { disk with list := listing } names = disk.makeLineage names := by
    induction names with
    | nil => rfl
    | cons name outer inductionHypothesis =>
      rw [Disk.makeLineage, Disk.makeLineage, inductionHypothesis]
      rfl
  rw [writeTo, writeTo, Disk.makeDirectories, Disk.makeDirectories, lineage]

namespace Compilation

theorem ofFile_of_listing (source : ExampleSource) (options : CompileOptions) (file : String) :
    ofFile source { disk with list := listing } options file =
      ofFile source disk options file := by
  funext before
  rcases opened : disk.readText file before with ⟨content, read⟩
  have opened' : Disk.readText { disk with list := listing } file before = (content, read) := opened
  rw [run_ofFile source options opened, run_ofFile source options opened', Plan.run, Plan.run]
  cases (plan source options file content).contract with
  | none => rfl
  | some target =>
    dsimp only
    rw [Document.writeTo_of_listing]

theorem ofFiles_of_listing (source : ExampleSource) (options : CompileOptions) (report : Report)
    (files : List String) :
    ofFiles source { disk with list := listing } options report files =
      ofFiles source disk options report files := by
  induction files generalizing report with
  | nil => rfl
  | cons file rest inductionHypothesis =>
    rw [ofFiles, ofFiles, ofFile_of_listing]
    exact bind_congr fun added => inductionHypothesis (report.merge added)

theorem descriptionFiles_of_listing (directory : String) (names : List String) :
    descriptionFiles { disk with list := listing } directory names =
      descriptionFiles disk directory names := by
  induction names with
  | nil => rfl
  | cons name rest inductionHypothesis =>
    rw [descriptionFiles, descriptionFiles, inductionHypothesis]

/-- A directory gives the same report and the same files in whatever order it is listed. -/
theorem ofDirectory_of_listing (source : ExampleSource) (options : CompileOptions)
    {directory : String} {before : σ}
    (same : SameListing (disk.list directory before).1 (listing directory before).1)
    (after : (listing directory before).2 = (disk.list directory before).2) :
    ofDirectory source { disk with list := listing } options directory before =
      ofDirectory source disk options directory before := by
  rcases listed : disk.list directory before with ⟨names, middle⟩
  rcases listed' : listing directory before with ⟨others, middle'⟩
  rw [listed, listed'] at same after
  obtain rfl : middle' = middle := after
  rw [ofDirectory, ofDirectory, run_bind listed, run_bind listed']
  cases same with
  | refused fault => rfl
  | listed perm =>
    -- From here on both runs have the same names, and nothing else is listed.
    dsimp only
    rw [mergeSort_eq_of_perm perm, descriptionFiles_of_listing]
    refine congrFun (bind_congr fun files => ?_) middle'
    exact ofFiles_of_listing source options .empty files

end Compilation

end Listing

/-! ### Without contracts -/

section Unwritten

variable {source : ExampleSource} {options : CompileOptions} {tree : FileTree}

namespace Compilation

/-- Where nothing is written, compiling a file changes nothing. -/
theorem run_ofFile_of_unwanted (unwanted : options.target? = none) (file : String) :
    (ofFile source FileTree.disk options file tree).2 = tree := by
  have opened := FileTree.run_readText file tree
  generalize FileTree.textOf (tree.read file) = content at opened
  obtain ⟨chosen, -, planning, -, run⟩ := exists_plan source options opened
  rw [run]
  cases planning with
  | blocked => rfl
  -- A plan with a contract has a directory for it.
  | ready clean wanted specified => cases unwanted.symm.trans wanted

theorem stages_of_unwanted (unwanted : options.target? = none) (files : List String) :
    stages source FileTree.disk options tree files = files.map (·, tree) := by
  induction files with
  | nil => rfl
  | cons file rest inductionHypothesis =>
    rw [stages, run_ofFile_of_unwanted unwanted, inductionHypothesis, List.map_cons]

theorem report_ofFiles_of_unwanted (unwanted : options.target? = none) (files : List String) :
    (ofFiles source FileTree.disk options .empty files tree).1.IsSumOf
      (files.map fun file => (ofFile source FileTree.disk options file tree).1) := by
  rw [report_ofFiles, stages_of_unwanted unwanted, List.map_map]
  exact Report.isSumOf_foldl_merge _

theorem run_ofFiles_of_unwanted (unwanted : options.target? = none) (report : Report)
    (files : List String) :
    (ofFiles source FileTree.disk options report files tree).2 = tree := by
  induction files generalizing report with
  | nil => rfl
  | cons file rest inductionHypothesis =>
    rw [ofFiles_cons, run_ofFile_of_unwanted unwanted, inductionHypothesis]

end Compilation

end Unwritten

/-! ### Directories -/

theorem FileName.join_lt (directory : String) {first second : String}
    (relative : isAbsolute first = false) (relative' : isAbsolute second = false)
    (less : first < second) : join directory first < join directory second := by
  have append (front : String) : front ++ first < front ++ second := by
    rw [String.lt_iff, String.toList_append, String.toList_append]
    exact List.append_left_lt (String.lt_iff.mp less)
  rw [join, join, relative, relative']
  split
  · exact less
  · split
    · exact append directory
    · exact append (directory ++ "/")

namespace FileTree

variable {tree : FileTree} {directory : String} {names : List String}

theorem mem_descriptions (listed : tree.list directory = .ok names) {file : String} :
    file ∈ tree.descriptions directory ↔ (∃ name ∈ names, join directory name = file) ∧
      FileName.extension? file = some "json" ∧ tree.isFile file = true := by
  rw [descriptions_eq, listed]
  dsimp only
  rw [List.mem_filter, List.mem_map, Bool.and_eq_true, decide_eq_true_iff]
  simp only [(List.mergeSort_perm names _).mem_iff]

/-- The descriptions are sorted, because their names have one directory in front. -/
theorem pairwise_descriptions (listed : tree.list directory = .ok names) (distinct : names.Nodup)
    (relative : ∀ name ∈ names, isAbsolute name = false) :
    (tree.descriptions directory).Pairwise (· < ·) := by
  have perm := List.mergeSort_perm names (· ≤ ·)
  have sorted : (names.mergeSort (· ≤ ·)).Pairwise (· < ·) :=
    (pairwise_mergeSort names).imp₂ (fun first second before apart => by
      rw [← String.not_le]
      exact fun behind => apart (String.le_antisymm before behind)) (perm.nodup_iff.mpr distinct)
  rw [descriptions_eq, listed]
  refine List.Pairwise.filter _ (List.pairwise_map.mpr ?_)
  refine sorted.imp_of_mem fun member member' less => ?_
  exact FileName.join_lt directory (relative _ (perm.mem_iff.mp member))
    (relative _ (perm.mem_iff.mp member')) less

end FileTree

namespace Compilation

/-- The report on a directory does not depend on the order in which it is listed. If nothing is
written the report adds up, in the order of the paths, what the descriptions give alone. In every
report that is made of issues and of other such reports, as this one is, the errors and the warnings
are counted right. So a run of the command that gets to a report exits with another status than zero
exactly if there is an error in it. -/
theorem report_ofDirectory (source : ExampleSource) (options : CompileOptions)
    (directory : String) :
    (∀ (σ : Type) (disk : Disk (StateM σ))
        (listing : String → StateM σ (Except FileFault (List String))) (before : σ),
      SameListing (disk.list directory before).1 (listing directory before).1 →
      (listing directory before).2 = (disk.list directory before).2 →
      ofDirectory source { disk with list := listing } options directory before =
        ofDirectory source disk options directory before) ∧
    (∀ tree names, options.dryRun = true ∨ options.outputDirectory = none →
      tree.list directory = .ok names →
      let files := tree.descriptions directory
      let run := ofDirectory source FileTree.disk options directory tree
      run.1.IsSumOf (files.map fun file => (ofFile source FileTree.disk options file tree).1) ∧
        run.2 = tree ∧
        (∀ file, file ∈ files ↔ (∃ name ∈ names, join directory name = file) ∧
          FileName.extension? file = some "json" ∧ tree.isFile file = true) ∧
        (names.Nodup → (∀ name ∈ names, isAbsolute name = false) → files.Pairwise (· < ·))) ∧
    (∀ (σ : Type) (disk : Disk (StateM σ)) (before : σ),
      (ofDirectory source disk options directory before).1.IsMade) ∧
    (∀ report : Report, report.IsMade → report.CountsIssues) ∧
    ∀ (σ : Type) (disk : Disk (StateM σ)) (environment : Environment) (given : List String)
        (arguments : Arguments) (settings : Settings) (before middle : σ),
      Arguments.ofList environment given = .ok arguments →
      arguments.settings disk environment before = (.ok settings, middle) →
      let compiled := arguments.compile source disk settings middle
      let run := runCommand source disk environment given before
      run = (arguments.outcome compiled.1, compiled.2) ∧
        (run.1.status ≠ 0 ↔ ∃ issue ∈ compiled.1.issues, issue.severity = .error) := by
  refine ⟨fun σ disk listing before => ofDirectory_of_listing source options, ?_,
    fun σ disk before => isMade_ofDirectory source disk options directory before,
    fun report made => made.countsIssues, ?_⟩
  · intro tree names unwritten listed files run
    have unwanted := target?_eq_none.mpr unwritten
    have ran : run = ofFiles source FileTree.disk options .empty files tree :=
      run_ofDirectory_of_listed source options listed
    rw [ran]
    exact ⟨report_ofFiles_of_unwanted unwanted files, run_ofFiles_of_unwanted unwanted .empty files,
      fun file => FileTree.mem_descriptions listed, FileTree.pairwise_descriptions listed⟩
  · intro σ disk environment given arguments settings before middle read set compiled run
    have ran : run = (arguments.outcome compiled.1, compiled.2) := run_runCommand read set
    rw [ran]
    exact ⟨rfl, arguments.status_outcome (arguments.isMade_compile source disk settings middle)⟩

/-- The directory is listed in the wrong order, or in the right one. One of its files is a
description and the other one is no JSON. -/
theorem report_ofDirectory_of_two :
    let source : ExampleSource := ⟨fun _ => 0, default⟩
    let options : CompileOptions := Settings.compileOptions {} true
    let description := "\x7b\"consumer\":\"a\",\"provider\":\"b\",\"interactions\":[]\x7d"
    let tree : FileTree := ⟨[(["in"], .directory), (["in", "b.json"], .file "none".toUTF8),
      (["in", "a.json"], .file description.toUTF8)], []⟩
    let alone (file : String) : Report := (ofFile source FileTree.disk options file tree).1
    let reversed (name : String) : StateM FileTree (Except FileFault (List String)) :=
      fun tree => ((tree.list name).map List.reverse, tree)
    let run := ofDirectory source FileTree.disk options "in" tree
    tree.list "in" = .ok ["b.json", "a.json"] ∧
      run.1.issues = (alone "in/a.json").issues ++ (alone "in/b.json").issues ∧
      (tree.descriptions "in").Pairwise (· < ·) ∧ run.1.CountsIssues ∧
      ofDirectory source { FileTree.disk with list := reversed } options "in" tree = run ∧
      (runCommand source FileTree.disk (fun _ => none) ["in", "--dry-run"] tree).1.status ≠ 0 := by
  intro source options description tree alone reversed run
  obtain ⟨ordered, adds, made, counts, status⟩ := report_ofDirectory source options "in"
  have listed : tree.list "in" = .ok ["b.json", "a.json"] := by decide +kernel
  have files : tree.descriptions "in" = ["in/a.json", "in/b.json"] := by
    rw [FileTree.descriptions_eq, listed]
    dsimp only
    rw [mergeSort_eq_of_perm (.swap _ _ _), List.mergeSort_of_pairwise (by decide)]
    decide +kernel
  obtain ⟨sum, _, _, sorted⟩ := adds tree _ (Or.inl rfl) listed
  have issues : run.1.issues = (alone "in/a.json").issues ++ (alone "in/b.json").issues := by
    rw [sum.issues, files]
    simp [alone]
  refine ⟨listed, issues, sorted (by decide) (by decide), counts run.1 (made _ _ tree),
    ordered _ _ _ _ ?_ rfl, ?_⟩
  · have given : (FileTree.disk.list "in" tree).1 = .ok ["b.json", "a.json"] := listed
    have turned : (reversed "in" tree).1 = .ok ["a.json", "b.json"] := by decide +kernel
    rw [given, turned]
    exact .listed (.swap _ _ _)
  · let arguments : Arguments := { path := "in", dryRun := true }
    have read : Arguments.ofList (fun _ => none) ["in", "--dry-run"] = .ok arguments := by
      decide +kernel
    have found : tree.isDirectory "in" = true := by decide +kernel
    have asked : FileTree.disk.isDirectory arguments.path tree = (true, tree) :=
      congrArg (·, tree) found
    have compiled : arguments.compile source FileTree.disk {} tree = run := by
      rw [Arguments.compile, run_bind asked]
      rfl
    have wrong : ∃ issue ∈ (alone "in/b.json").issues, issue.severity = .error := by
      decide +kernel
    obtain ⟨issue, member, severe⟩ := wrong
    refine (status _ _ _ _ _ {} tree tree read rfl).2.mpr ?_
    rw [compiled, issues]
    exact ⟨issue, List.mem_append_right _ member, severe⟩

end Compilation

end ConsumerContract
