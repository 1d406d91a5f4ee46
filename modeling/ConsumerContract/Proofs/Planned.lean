/-
This file says when a contract is written. What is reported about the description in a file, and
which contract is to be written where, depends on the text and on the options alone: this is the
plan for the file. It has a contract exactly if nothing is wrong with the description, a directory
is given and the run is not dry. To compile a file is to read it and to write the planned contract,
if there is one; how that went is the last thing that is reported. So nothing is tried that could
fail for another reason than the disk.
-/

import ConsumerContract.Proofs.Contracts
import ConsumerContract.Proofs.WrittenContracts

namespace ConsumerContract

/-! ### Reports -/

namespace Report

/-- Nothing is said yet about a contract that is written. -/
def IsFresh (report : Report) : Prop :=
  report.contracts = [] ∧ ∀ issue ∈ report.issues, issue.code ≠ "I001" ∧ issue.code ≠ "E020"

/-- The issues with a code. -/
def withCode (report : Report) (code : String) : List Issue :=
  report.issues.filter (·.code = code)

theorem withCode_eq_nil {report : Report} {code : String}
    (other : ∀ issue ∈ report.issues, issue.code ≠ code) : report.withCode code = [] :=
  List.filter_eq_nil_iff.mpr fun issue member same => other issue member (of_decide_eq_true same)

theorem hasErrors_addTo {reading : DescriptionReading} {file : String} :
    (reading.addTo file Compilation.start).hasErrors = false ↔ reading.IsClean := by
  have counted : (reading.addTo file Compilation.start).errors =
      (reading.findings.map (·.issue file)).countP (·.severity = .error) := by
    rw [DescriptionReading.addTo, addIssues_eq]
    exact Nat.zero_add _
  rw [hasErrors, decide_eq_false_iff_not, Nat.not_lt, Nat.le_zero, counted, List.countP_eq_zero,
    DescriptionReading.IsClean]
  simp only [List.forall_mem_map, decide_eq_true_eq]
  rfl

end Report

/-- No finding has the code of a contract that has been written, or could not be. -/
theorem DescriptionProblem.code_ne (problem : DescriptionProblem) :
    problem.code ≠ "I001" ∧ problem.code ≠ "E020" := by
  cases problem with
  | notEncoded failure =>
    rw [code]
    cases failure.reason <;> simp [FailureReason.code]
  | _ => simp [code]

/-! ### Reading a file tree -/

namespace FileTree

/-- The text that bytes stand for. -/
def textOf : Except FileFault ByteArray → Except FileFault String
  | .error fault => .error fault
  | .ok bytes =>
    match String.fromUTF8? bytes with
    | some text => .ok text
    | none => .error .notText

/-- Reading changes nothing and depends on the bytes alone. -/
theorem run_readText (name : String) (tree : FileTree) :
    disk.readText name tree = (textOf (tree.read name), tree) := by
  have opened : disk.read name tree = (tree.read name, tree) := rfl
  rw [Disk.readText, run_bind opened]
  cases tree.read name with
  | error fault => rfl
  | ok bytes =>
    dsimp only [textOf]
    cases String.fromUTF8? bytes <;> rfl

end FileTree

namespace Compilation

variable {source : ExampleSource} {options : CompileOptions} {file text : String}
  {content : Except FileFault String}

/-! ### Plans -/

/-- What is reported about a file, and the contract that is to be written, with its directory. -/
structure Plan where
  report : Report
  contract : Option (String × Document) := none

/-- The contract of a description that gave this report, if it is written. -/
def planned (options : CompileOptions) (reading : DescriptionReading) (report : Report) :
    Option (String × Document) :=
  match reading.pact, options.target? with
  | some pact, some directory =>
    if report.hasErrors then none else pact.document.toOption.map (directory, ·)
  | _, _ => none

/-- What follows from the text of a file, or from its being unreadable. -/
def plan (source : ExampleSource) (options : CompileOptions) (file : String) :
    Except FileFault String → Plan
  | .error fault => ⟨start.addIssue (.unreadableFile file fault), none⟩
  | .ok text =>
    match Json.parse text with
    | .error problem =>
      ⟨start.addIssue (.notJson file problem (some "Check for JSON syntax errors")), none⟩
    | .ok description =>
      let reading := Description.contract source options.maxDepth description
      let report := reading.addTo file start
      ⟨report, planned options reading report⟩

/-- The report once the contract has been written or refused. -/
def conclude (file : String) (report : Report) : Except FileRefusal String → Report
  | .ok name =>
    let report := report.addIssue (.written file name)
    { report with contracts := report.contracts ++ [name] }
  | .error refusal => report.addIssue (.notWritten file (.refused refusal))

/-- What is done with a plan once the file has been read: its contract is written. -/
def Plan.run {σ : Type} (plan : Plan) (file : String) (disk : Disk (StateM σ)) (read : σ) :
    Report × σ :=
  match plan.contract with
  | none => (plan.report, read)
  | some (directory, document) =>
    (conclude file plan.report (document.writeTo disk directory read).1,
      (document.writeTo disk directory read).2)

/-- The text describes the contract, which has an interaction for each item of the description. -/
def Specifies (source : ExampleSource) (options : CompileOptions) (text : String)
    (document : Document) : Prop :=
  ∃ description pact items, Json.parse text = .ok description ∧
    (Description.contract source options.maxDepth description).pact = some pact ∧
    pact.document = .ok document ∧
    description.member? "interactions" = some (.array items) ∧
    document.interactions.length = items.length ∧
    ∀ position item, items[position]? = some item →
      ∃ interaction, document.interactions[position]? = some interaction ∧
        Description.Describes (source.part position) options.maxDepth item interaction

/-- Something is wrong besides the writing, or nothing is to be written. -/
def IsBlocked (options : CompileOptions) (report : Report) : Prop :=
  (∃ issue ∈ report.issues, issue.severity = .error ∧ issue.code ≠ "E020") ∨
    options.dryRun = true ∨ options.outputDirectory = none

theorem target?_eq_some {directory : String} :
    options.target? = some directory ↔
      options.dryRun = false ∧ options.outputDirectory = some directory := by
  rw [CompileOptions.target?]
  cases options.dryRun <;> simp

theorem target?_eq_none :
    options.target? = none ↔ options.dryRun = true ∨ options.outputDirectory = none := by
  rw [CompileOptions.target?]
  cases options.dryRun <;> simp

theorem isBlocked_of_error {report : Report} {issue : Issue} (member : issue ∈ report.issues)
    (severe : issue.severity = .error) (other : issue.code ≠ "E020") : IsBlocked options report :=
  Or.inl ⟨issue, member, severe, other⟩

section Planned

variable {reading : DescriptionReading} {report : Report} {pact : Pact} {document : Document}
  {directory : String}

theorem planned_of_errors (errors : report.hasErrors = true) :
    planned options reading report = none := by
  rw [planned]
  split
  · rw [if_pos errors]
  · rfl

theorem planned_of_unwanted (unwanted : options.target? = none) :
    planned options reading report = none := by
  rw [planned, unwanted]
  cases reading.pact <;> rfl

theorem planned_of_document (named : reading.pact = some pact)
    (wanted : options.target? = some directory) (clear : report.hasErrors = false)
    (finished : pact.document = .ok document) :
    planned options reading report = some (directory, document) := by
  rw [planned, named, wanted]
  dsimp only
  rw [clear, finished]
  rfl

end Planned

/-- What the two ways for a plan to end are. -/
inductive Planning (source : ExampleSource) (options : CompileOptions) :
    Except FileFault String → Plan → Prop
  | blocked {content : Except FileFault String} {report : Report}
      (reason : IsBlocked options report) : Planning source options content ⟨report, none⟩
  | ready {text directory : String} {report : Report} {document : Document}
      (clean : ∀ issue ∈ report.issues, issue.severity ≠ .error)
      (wanted : options.target? = some directory)
      (specified : Specifies source options text document) :
      Planning source options (.ok text) ⟨report, some (directory, document)⟩

theorem planning_of_description {description : Json} (parsed : Json.parse text = .ok description)
    (file : String) :
    let reading := Description.contract source options.maxDepth description
    let report := reading.addTo file start
    Planning source options (.ok text) ⟨report, planned options reading report⟩ := by
  intro reading report
  have issues : report.issues = reading.findings.map (·.issue file) :=
    DescriptionReading.issues_addTo reading file start
  by_cases clean : reading.IsClean
  · cases wanted : options.target? with
    | none =>
      rw [planned_of_unwanted wanted]
      exact .blocked (Or.inr (target?_eq_none.mp wanted))
    | some directory =>
      cases named : reading.pact with
      | none =>
        obtain ⟨finding, member, severe⟩ := Description.error_of_no_pact named
        exact absurd severe (clean finding member)
      | some pact =>
        -- An encoding that failed would have been found.
        have finished :=
          Description.document_of_no_failures (Description.failures_of_clean named clean)
        obtain ⟨length, places⟩ := Description.getElem?_interactions_of_clean named clean
        rw [planned_of_document named wanted (Report.hasErrors_addTo.mpr clean) finished]
        refine .ready ?_ wanted ⟨description, pact, _, parsed, named, finished,
          Description.list_of_no_errors named clean, length, places⟩
        rw [issues]
        exact List.forall_mem_map.mpr clean
  · have errors : report.hasErrors = true := by
      rw [← Bool.not_eq_false, Report.hasErrors_addTo]
      exact clean
    rw [planned_of_errors errors]
    rw [DescriptionReading.IsClean] at clean
    push Not at clean
    obtain ⟨finding, member, severe⟩ := clean
    have reported : finding.issue file ∈ report.issues := by
      rw [issues]
      exact List.mem_map_of_mem member
    exact .blocked (isBlocked_of_error reported severe finding.problem.code_ne.2)

theorem planning_of_plan (source : ExampleSource) (options : CompileOptions) (file : String)
    (content : Except FileFault String) :
    Planning source options content (plan source options file content) := by
  cases content with
  | error fault =>
    refine .blocked (isBlocked_of_error (List.mem_singleton_self _) rfl ?_)
    simp [Issue.unreadableFile]
  | ok text =>
    rw [plan]
    cases parsed : Json.parse text with
    | error problem =>
      refine .blocked (isBlocked_of_error (List.mem_singleton_self _) rfl ?_)
      simp [Issue.notJson]
    | ok description => exact planning_of_description parsed file

theorem plan_isFresh (source : ExampleSource) (options : CompileOptions) (file : String)
    (content : Except FileFault String) : (plan source options file content).report.IsFresh := by
  cases content with
  | error fault =>
    refine ⟨rfl, List.forall_mem_singleton.mpr ?_⟩
    simp [Issue.unreadableFile]
  | ok text =>
    rw [plan]
    cases parsed : Json.parse text with
    | error problem =>
      refine ⟨rfl, List.forall_mem_singleton.mpr ?_⟩
      simp [Issue.notJson]
    | ok description =>
      dsimp only
      rw [Report.IsFresh, DescriptionReading.issues_addTo]
      refine ⟨?_, List.forall_mem_map.mpr fun finding _ => finding.problem.code_ne⟩
      rw [DescriptionReading.addTo, Report.addIssues_eq]
      rfl

/-! ### Runs -/

section Runs

variable {σ : Type} {disk : Disk (StateM σ)} {before read after : σ}

theorem run_write {pact : Pact} {document : Document} (finished : pact.document = .ok document)
    (directory : String) (report : Report) {outcome : Except FileRefusal String}
    (wrote : document.writeTo disk directory before = (outcome, after)) :
    write disk file pact directory report before = (conclude file report outcome, after) := by
  have written : pact.writeTo disk directory before =
      (outcome.mapError WriteError.refused, after) := by
    rw [Pact.writeTo, finished]
    dsimp only
    rw [run_bind wrote]
    cases outcome <;> rfl
  rw [write, run_bind written]
  cases outcome <;> rfl

theorem run_ofValue (source : ExampleSource) (options : CompileOptions) (file : String)
    (description : Json) :
    let reading := Description.contract source options.maxDepth description
    let report := reading.addTo file start
    ofValue source disk options file description before =
      (Plan.mk report (planned options reading report)).run file disk before := by
  intro reading report
  have unfolded : ofValue source disk options file description =
      match reading.pact, options.target? with
      | some pact, some directory =>
        if report.hasErrors then return report else write disk file pact directory report
      | _, _ => return report := rfl
  cases named : reading.pact with
  | none =>
    rw [unfolded, planned, named]
    rfl
  | some pact =>
    cases wanted : options.target? with
    | none =>
      rw [unfolded, planned_of_unwanted wanted, named, wanted]
      rfl
    | some directory =>
      cases errors : report.hasErrors with
      | true =>
        rw [unfolded, planned_of_errors errors, named, wanted]
        dsimp only
        rw [if_pos errors]
        rfl
      | false =>
        have clean := Report.hasErrors_addTo.mp errors
        have finished :=
          Description.document_of_no_failures (Description.failures_of_clean named clean)
        rw [unfolded, planned_of_document named wanted errors finished, named, wanted]
        dsimp only
        rw [errors]
        exact run_write finished directory report rfl

/-- To compile a file is to read it and to write the contract of its plan. -/
theorem run_ofFile (source : ExampleSource) (options : CompileOptions)
    (opened : disk.readText file before = (content, read)) :
    ofFile source disk options file before =
      (plan source options file content).run file disk read := by
  rw [ofFile, run_bind opened]
  cases content with
  | error fault => rfl
  | ok text =>
    dsimp only
    rw [ofText, plan]
    cases parsed : Json.parse text with
    | error problem => rfl
    | ok description => exact run_ofValue source options file description

/-- A file is compiled by a plan of which all is known. -/
theorem exists_plan (source : ExampleSource) (options : CompileOptions)
    (opened : disk.readText file before = (content, read)) :
    ∃ chosen, plan source options file content = chosen ∧
      Planning source options content chosen ∧ chosen.report.IsFresh ∧
      ofFile source disk options file before = chosen.run file disk read :=
  ⟨_, rfl, planning_of_plan source options file content, plan_isFresh source options file content,
    run_ofFile source options opened⟩

end Runs

/-! ### Reports of runs -/

/-- The issue that says how the writing of the contract went. -/
def outcomeIssue (file : String) : Except FileRefusal String → Issue
  | .ok name => .written file name
  | .error refusal => .notWritten file (.refused refusal)

theorem issues_conclude (file : String) (report : Report) (outcome : Except FileRefusal String) :
    (conclude file report outcome).issues = report.issues ++ [outcomeIssue file outcome] := by
  cases outcome <;> rfl

theorem contracts_conclude (file : String) (report : Report)
    (outcome : Except FileRefusal String) :
    (conclude file report outcome).contracts = report.contracts ++ outcome.toOption.toList := by
  cases outcome with
  | ok name => rfl
  | error refusal => exact (List.append_nil _).symm

/-- How the writing of the contract shows in the report. -/
inductive Concluded (file : String) (report : Report) : Except FileRefusal String → Prop
  | written {name : String} (contracts : report.contracts = [name])
      (told : report.withCode "I001" = [.written file name])
      (untold : report.withCode "E020" = []) : Concluded file report (.ok name)
  | refused {refusal : FileRefusal} (contracts : report.contracts = [])
      (untold : report.withCode "I001" = [])
      (told : report.withCode "E020" = [.notWritten file (.refused refusal)]) :
      Concluded file report (.error refusal)

theorem concluded_of_isFresh (file : String) {report : Report} (fresh : report.IsFresh)
    (outcome : Except FileRefusal String) :
    Concluded file (conclude file report outcome) outcome := by
  have withCode (code : String) : (conclude file report outcome).withCode code =
      report.withCode code ++ [outcomeIssue file outcome].filter (·.code = code) := by
    rw [Report.withCode, issues_conclude, List.filter_append]
    rfl
  obtain ⟨unwritten, others⟩ := fresh
  have noContract := Report.withCode_eq_nil fun issue member => (others issue member).1
  have noRefusal := Report.withCode_eq_nil fun issue member => (others issue member).2
  have contracts := contracts_conclude file report outcome
  rw [unwritten, List.nil_append] at contracts
  cases outcome with
  | ok name =>
    refine .written contracts ?_ ?_
    · rw [withCode, noContract]
      rfl
    · rw [withCode, noRefusal]
      rfl
  | error refusal =>
    refine .refused contracts ?_ ?_
    · rw [withCode, noContract]
      rfl
    · rw [withCode, noRefusal]
      rfl

theorem not_isBlocked_of_clean (file : String) {report : Report} {directory : String}
    (clean : ∀ issue ∈ report.issues, issue.severity ≠ .error)
    (wanted : options.target? = some directory) (outcome : Except FileRefusal String) :
    ¬ IsBlocked options (conclude file report outcome) := by
  obtain ⟨wet, given⟩ := target?_eq_some.mp wanted
  rintro (⟨issue, member, severe, other⟩ | dry | missing)
  · rw [issues_conclude] at member
    rcases List.mem_append.mp member with member | member
    · exact clean issue member severe
    · obtain rfl := List.mem_singleton.mp member
      cases outcome with
      | ok name => cases severe
      | error refusal => exact other rfl
  · rw [wet] at dry
    cases dry
  · rw [given] at missing
    cases missing

/-- Besides reading the file, a run that is blocked does nothing, and any other one writes the
contract that the text describes once, as indented JSON, and reports how that went. -/
structure WritesOnce {σ : Type} (source : ExampleSource) (options : CompileOptions) (file : String)
    (disk : Disk (StateM σ)) (before : σ) (report : Report) (after : σ) : Prop where
  blocked : IsBlocked options report → after = (disk.readText file before).2 ∧
    report.contracts = [] ∧ report.withCode "I001" = [] ∧ report.withCode "E020" = []
  unblocked : ¬ IsBlocked options report → ∃ text directory document outcome,
    (disk.readText file before).1 = .ok text ∧ options.outputDirectory = some directory ∧
    Specifies source options text document ∧
    document.writeTo disk directory (disk.readText file before).2 = (outcome, after) ∧
    document.Writing disk directory (disk.readText file before).2 outcome after ∧
    Concluded file report outcome

theorem writesOnce_ofFile {σ : Type} (source : ExampleSource) (options : CompileOptions)
    (file : String) (disk : Disk (StateM σ)) (before : σ) :
    WritesOnce source options file disk before (ofFile source disk options file before).1
      (ofFile source disk options file before).2 := by
  rcases opened : disk.readText file before with ⟨content, read⟩
  obtain ⟨chosen, -, planning, fresh, run⟩ := exists_plan source options opened
  rw [run]
  cases planning with
  | blocked reason =>
    obtain ⟨unwritten, others⟩ := fresh
    refine ⟨fun _ => ⟨by rw [opened]; rfl, unwritten, ?_, ?_⟩, fun free => absurd reason free⟩
    · exact Report.withCode_eq_nil fun issue member => (others issue member).1
    · exact Report.withCode_eq_nil fun issue member => (others issue member).2
  | ready clean wanted specified =>
    rename_i text directory report document
    refine ⟨fun blocked => absurd blocked (not_isBlocked_of_clean file clean wanted _), fun _ => ?_⟩
    rw [opened]
    exact ⟨text, directory, document, _, rfl, (target?_eq_some.mp wanted).2, specified, rfl,
      Document.writing_of_writeTo rfl, concluded_of_isFresh file fresh _⟩

/-- A contract is written exactly if nothing is wrong with its description and it is to be written.
If an error is reported that is not about the writing, or the run is dry, or there is no directory,
nothing happens but that the file is read. Otherwise the contract that the text describes is written
once, and what is reported is either that, with the name of a file that then holds the contract as
indented JSON, or that the disk refused it; it is never that the contract could not be encoded. -/
theorem ofFile_writes_unless_blocked (source : ExampleSource) (options : CompileOptions)
    (file : String) :
    (∀ (σ : Type) (disk : Disk (StateM σ)) (before : σ),
      let run := ofFile source disk options file before
      WritesOnce source options file disk before run.1 run.2) ∧
    ∀ tree : FileTree,
      let run := ofFile source FileTree.disk options file tree
      (IsBlocked options run.1 → run.2 = tree) ∧
      ∀ name ∈ run.1.contracts, ∃ text document,
        (FileTree.disk.readText file tree).1 = .ok text ∧
        Specifies source options text document ∧
        run.2.read name = .ok document.toJson.pretty.toUTF8 := by
  refine ⟨fun σ disk before => writesOnce_ofFile source options file disk before, fun tree => ?_⟩
  intro run
  have once := writesOnce_ofFile source options file FileTree.disk tree
  refine ⟨fun blocked => ?_, fun name member => ?_⟩
  · have kept := (once.blocked blocked).1
    rwa [FileTree.run_readText] at kept
  · by_cases blocked : IsBlocked options run.1
    · rw [(once.blocked blocked).2.1] at member
      cases member
    · obtain ⟨text, directory, document, outcome, read, _, specified, wrote, _, concluded⟩ :=
        once.unblocked blocked
      refine ⟨text, document, read, specified, ?_⟩
      cases concluded with
      | refused contracts =>
        rw [contracts] at member
        cases member
      | written contracts =>
        rw [contracts] at member
        obtain rfl := List.mem_singleton.mp member
        exact (FileTree.writes_of_written wrote).2.2

/-- A file that is compiled into a directory which is still missing. -/
theorem ofFile_writes_unless_blocked_of_users :
    let source : ExampleSource := ⟨fun _ => 0, default⟩
    let options : CompileOptions := { outputDirectory := some "out" }
    let text := "\x7b\"consumer\":\"app\",\"provider\":\"api\",\"interactions\":[" ++
      "\x7b\"description\":\"users\",\"request\":\x7b\"method\":\"get\",\"path\":\"/\"\x7d," ++
      "\"response\":\x7b\"status\":200\x7d\x7d]\x7d"
    let tree : FileTree := ⟨[(["users.json"], .file text.toUTF8)], []⟩
    let run := ofFile source FileTree.disk options "users.json" tree
    run.1.contracts = ["out/app-api.json"] ∧
      run.1.withCode "I001" = [.written "users.json" "out/app-api.json"] ∧
      ∃ document, Specifies source options text document ∧
        run.2.read "out/app-api.json" = .ok document.toJson.pretty.toUTF8 := by
  intro source options text tree run
  have contracts : run.1.contracts = ["out/app-api.json"] := by decide +kernel
  have read : (FileTree.disk.readText "users.json" tree).1 = .ok text := by decide +kernel
  obtain ⟨once, readable⟩ := ofFile_writes_unless_blocked source options "users.json"
  have once := once FileTree FileTree.disk tree
  obtain ⟨_, readable⟩ := readable tree
  have ran : ofFile source FileTree.disk options "users.json" tree = run := rfl
  rw [ran] at once readable
  clear_value run tree text
  rw [contracts] at readable
  refine ⟨contracts, ?_, ?_⟩
  · have free : ¬ IsBlocked options run.1 := fun blocked =>
      List.cons_ne_nil _ _ (contracts.symm.trans (once.blocked blocked).2.1)
    obtain ⟨_, _, _, _, _, _, _, _, _, concluded⟩ := once.unblocked free
    cases concluded with
    | refused none => exact absurd (contracts.symm.trans none) (List.cons_ne_nil _ _)
    | written same told =>
      obtain ⟨rfl, _⟩ := List.cons.inj (contracts.symm.trans same)
      exact told
  · obtain ⟨other, document, read', specified, written⟩ := readable _ (List.mem_singleton_self _)
    obtain rfl := Except.ok.inj (read.symm.trans read')
    exact ⟨document, specified, written⟩

end Compilation

end ConsumerContract
