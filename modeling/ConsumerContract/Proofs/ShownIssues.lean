/-
This file says which issues of a report are shown. On a page for people the issues are put
together by file; that changes their order, but none is lost or shown twice, because each
one is added to the list of one file. Lines about issues begin with a bar in the colour of
a severity, and no other line of a page does, so the issues can be found on it. A report as
JSON can be read in one way only. It always has all issues in it, so a request for errors
only is not heard there.
-/

import ConsumerContract.Proofs.DirectoryReports
import ConsumerContract.Proofs.OverriddenSettings
import ConsumerContract.Proofs.PrintedJson

namespace ConsumerContract

/-! ### Issues by file -/

/-- One more entry in the list at a key is one more entry in all. -/
theorem Keyed.perm_insert_concat {Entry : Type} {files : Keyed (List Entry)}
    (ordered : files.Ordered) (key : String) (entry : Entry) :
    ((files.insert key ((files.find? key).getD [] ++ [entry])).flatMap Prod.snd).Perm
      (files.flatMap Prod.snd ++ [entry]) := by
  induction files with
  | nil => exact .refl _
  | cons file rest inductionHypothesis =>
    obtain ⟨other, entries⟩ := file
    obtain ⟨above, orderedRest⟩ := List.pairwise_cons.mp ordered
    unfold insert
    split
    · rename_i less
      have none : find? key ((other, entries) :: rest) = none := by
        refine find?_eq_none_of_lt (List.forall_mem_cons.mpr ⟨less, fun later member => ?_⟩)
        exact String.lt_trans less (above later member)
      rw [none]
      exact List.perm_append_comm
    · split
      · rename_i same
        rw [find?, if_pos same, List.flatMap_cons, List.flatMap_cons, Option.getD_some,
          List.append_assoc, List.append_assoc]
        exact List.perm_append_comm.append_left entries
      · rename_i different
        rw [find?, if_neg different, List.flatMap_cons, List.flatMap_cons, List.append_assoc]
        exact (inductionHypothesis orderedRest).append_left entries

namespace Display

theorem byFile_concat (issues : List Issue) (issue : Issue) :
    byFile (issues ++ [issue]) =
      (byFile issues).insert issue.file
        (((byFile issues).find? issue.file).getD [] ++ [issue]) := by
  rw [byFile, List.foldl_append]
  rfl

/-- Each issue is put into the list of one file, behind those that are there. -/
theorem perm_byFile (issues : List Issue) :
    (byFile issues).Ordered ∧ ((byFile issues).flatMap Prod.snd).Perm issues := by
  induction issues using List.reverseRecOn with
  | nil => exact ⟨List.Pairwise.nil, .refl _⟩
  | append_singleton issues issue inductionHypothesis =>
    obtain ⟨ordered, perm⟩ := inductionHypothesis
    rw [byFile_concat]
    exact ⟨Keyed.ordered_insert ordered,
      (Keyed.perm_insert_concat ordered _ _).trans (perm.append_right [issue])⟩

/-! ### Lines of a page -/

/-- How lines about issues of a severity begin. -/
def bar (severity : Severity) : String :=
  "  " ++ styled (severityColour severity) "|" ++ " "

/-- Whether a line is about an issue. -/
def isIssueLine (line : String) : Bool :=
  [Severity.error, .warning, .info].any fun severity =>
    (bar severity).toList.isPrefixOf line.toList

/-- The line with the state and the name of a file. -/
def fileHeadline (file : String) (issues : List Issue) : String :=
  statusText issues ++ " " ++ styled (bold ++ cyan) ((FileName.last? file).getD "")

/-- The lines of a page in front of the files. -/
def openingLines (path : String) (report : Report) : List String :=
  [styled (bold ++ cyan) "Pact Contract Compiler", ruler,
    styled dim "Scanning:" ++ " " ++ styled cyan path, ""] ++
  if report.issues.isEmpty then [styled (green ++ bold) "No issues found!"] else []

/-- The lines of a page that are not about issues: two for each file whose issues are shown, and
those around them. -/
def frameLines (path : String) (dryRun : Bool) (report : Report)
    (files : List (String × List Issue)) : List String :=
  openingLines path report ++
    files.flatMap (fun (file, issues) => [fileHeadline file issues, ""]) ++
    (summaryLines report ++ [verdictLine report dryRun])

/-- A line is about an issue if it goes on behind a bar. -/
theorem isIssueLine_bar (severity : Severity) (rest : String) :
    isIssueLine (bar severity ++ rest) = true := by
  refine List.any_eq_true.mpr ⟨severity, ?_, ?_⟩
  · cases severity <;> decide
  · rw [String.toList_append]
    exact List.isPrefixOf_iff_prefix.mpr (List.prefix_append _ _)

/-- What stands behind the bar of the first line about an issue. -/
def issueText (issue : Issue) : String :=
  locationText issue.location ++ " " ++
    styled (bold ++ severityColour issue.severity) issue.severity.name ++ ": " ++ issue.message ++
    " " ++ dim ++ "(" ++ severityColour issue.severity ++ issue.code ++ dim ++ ")" ++ plain

theorem issueLines_eq (issue : Issue) :
    issueLines issue = (bar issue.severity ++ issueText issue) ::
      issue.suggestion.toList.map fun suggestion =>
        bar issue.severity ++ ("  " ++ styled green ("-> " ++ suggestion)) := by
  rw [issueLines]
  cases issue.suggestion with
  | none => simp only [bar, issueText, String.append_assoc, Option.toList_none, List.map_nil]
  | some suggestion =>
    simp only [bar, issueText, String.append_assoc, Option.toList_some, List.map_cons,
      List.map_nil]

theorem isIssueLine_of_mem {issue : Issue} {line : String} (member : line ∈ issueLines issue) :
    isIssueLine line = true := by
  rw [issueLines_eq] at member
  rcases List.mem_cons.mp member with rfl | member
  · exact isIssueLine_bar _ _
  · obtain ⟨suggestion, -, rfl⟩ := List.mem_map.mp member
    exact isIssueLine_bar _ _

/-! ### Lines of the frame -/

/-- What the escape sequence for the colour of a severity differs in. -/
def colourDigit : Severity → Char
  | .error => '1'
  | .warning => '3'
  | .info => '6'

theorem toList_severityColour (severity : Severity) :
    (severityColour severity).toList = ['\x1b', '[', '3', colourDigit severity, 'm'] := by
  cases severity with
  | error => exact String.toList_ofList
  | warning => exact String.toList_ofList
  | info => exact String.toList_ofList

theorem toList_bar (severity : Severity) : (bar severity).toList =
    [' ', ' ', '\x1b', '[', '3', colourDigit severity, 'm', '|', '\x1b', '[', '0', 'm', ' '] := by
  rw [bar, styled, plain, String.toList_append, String.toList_append, String.toList_append,
    String.toList_append, toList_severityColour, String.toList_ofList, String.toList_ofList,
    String.toList_ofList, String.toList_ofList]
  rfl

theorem isIssueLine_eq_false {line : String}
    (apart : ∀ severity, (bar severity).toList.isPrefixOf line.toList = false) :
    isIssueLine line = false :=
  List.any_eq_false.mpr fun severity _ => Bool.not_eq_true _ ▸ apart severity

theorem isIssueLine_empty : isIssueLine "" = false := by
  refine isIssueLine_eq_false fun severity => ?_
  rw [toList_bar, String.toList_empty]
  rfl

/-- The text begins with a colour or a style. -/
def IsColoured (text : String) : Prop :=
  ∃ rest, text.toList = '\x1b' :: rest

theorem IsColoured.append {front : String} (coloured : IsColoured front) (behind : String) :
    IsColoured (front ++ behind) :=
  begins_append coloured behind

theorem IsColoured.isIssueLine {line : String} (coloured : IsColoured line) :
    isIssueLine line = false := by
  obtain ⟨rest, begins⟩ := coloured
  refine isIssueLine_eq_false fun severity => ?_
  rw [toList_bar, begins]
  rfl

theorem isColoured_dim : IsColoured dim := ⟨_, String.toList_ofList⟩

theorem isColoured_bold : IsColoured bold := ⟨_, String.toList_ofList⟩

theorem isColoured_green : IsColoured green := ⟨_, String.toList_ofList⟩

theorem isColoured_red : IsColoured red := ⟨_, String.toList_ofList⟩

theorem isColoured_yellow : IsColoured yellow := ⟨_, String.toList_ofList⟩

theorem IsColoured.styled {style : String} (coloured : IsColoured style) (text : String) :
    IsColoured (styled style text) :=
  (coloured.append text).append plain

theorem isColoured_ruler : IsColoured ruler :=
  isColoured_dim.styled _

theorem isColoured_fileHeadline (file : String) (issues : List Issue) :
    IsColoured (fileHeadline file issues) := by
  have state : IsColoured (statusText issues) := by
    rw [statusText]
    split
    · exact isColoured_red.styled _
    · split
      · exact isColoured_yellow.styled _
      · exact (isColoured_green.styled _).append _
  exact (state.append _).append _

theorem isIssueLine_openingLines (path : String) (report : Report) :
    ∀ line ∈ openingLines path report, isIssueLine line = false := by
  have title := ((isColoured_bold.append cyan).styled "Pact Contract Compiler").isIssueLine
  have scanning := (((isColoured_dim.styled "Scanning:").append " ").append
    (styled cyan path)).isIssueLine
  rw [openingLines]
  refine List.forall_mem_append.mpr ⟨?_, ?_⟩
  · simp only [List.forall_mem_cons]
    exact ⟨title, isColoured_ruler.isIssueLine, scanning, isIssueLine_empty, nofun⟩
  · split
    · exact List.forall_mem_singleton.mpr
        ((isColoured_green.append bold).styled "No issues found!").isIssueLine
    · exact nofun

theorem isIssueLine_verdictLine (report : Report) (dryRun : Bool) :
    isIssueLine (verdictLine report dryRun) = false := by
  rw [verdictLine]
  split
  · exact ((isColoured_red.append bold).styled _).isIssueLine
  · split
    · exact ((isColoured_green.append bold).styled _).isIssueLine
    · exact ((isColoured_green.append bold).styled _).isIssueLine

/-! ### Lines with numbers -/

theorem toList_countLine (style name blanks numberStyle : String) (number : Nat) :
    ∃ rest, (countLine style name blanks numberStyle number).toList =
      [' ', ' '] ++ (style.toList ++ (name.toList ++ rest)) := by
  rw [countLine, styled, String.append_assoc, String.append_assoc, String.append_assoc,
    String.append_assoc, String.append_assoc, String.toList_append, String.toList_append,
    String.toList_append, String.toList_ofList]
  exact ⟨_, rfl⟩

/-- A dim line has another escape sequence behind its blanks. -/
theorem isIssueLine_dim (name blanks numberStyle : String) (number : Nat) :
    isIssueLine (countLine dim name blanks numberStyle number) = false := by
  obtain ⟨rest, chars⟩ := toList_countLine dim name blanks numberStyle number
  have colour : dim.toList = ['\x1b', '[', '2', 'm'] := String.toList_ofList
  refine isIssueLine_eq_false fun severity => ?_
  rw [toList_bar, chars, colour]
  rfl

/-- In a line in colour its name stands where a bar would stand. -/
theorem isIssueLine_colour {style name : String} {digit letter : Char} {letters : List Char}
    (colour : style.toList = ['\x1b', '[', '3', digit, 'm'])
    (named : name.toList = letter :: letters) (other : letter ≠ '|') (blanks numberStyle : String)
    (number : Nat) :
    isIssueLine (countLine style name blanks numberStyle number) = false := by
  obtain ⟨rest, chars⟩ := toList_countLine style name blanks numberStyle number
  refine isIssueLine_eq_false fun severity => ?_
  rw [toList_bar, chars, colour, named]
  simp [List.isPrefixOf, other.symm]

theorem isIssueLine_errors (report : Report) :
    isIssueLine (if 0 < report.errors then
      countLine red "Errors" "        " (bold ++ red) report.errors
      else countLine green "Errors" "        " (bold ++ green) 0) = false := by
  split
  · exact isIssueLine_colour String.toList_ofList String.toList_ofList (by decide) _ _ _
  · exact isIssueLine_colour String.toList_ofList String.toList_ofList (by decide) _ _ _

theorem isIssueLine_warnings (report : Report) :
    isIssueLine (if 0 < report.warnings then
      countLine yellow "Warnings" "      " (bold ++ yellow) report.warnings
      else countLine dim "Warnings" "      " bold 0) = false := by
  split
  · exact isIssueLine_colour String.toList_ofList String.toList_ofList (by decide) _ _ _
  · exact isIssueLine_dim _ _ _ _

theorem isIssueLine_summaryLines (report : Report) :
    ∀ line ∈ summaryLines report, isIssueLine line = false := by
  have title := ((isColoured_bold.append cyan).styled "Summary").isIssueLine
  rw [summaryLines]
  simp only [List.forall_mem_cons]
  exact ⟨isColoured_ruler.isIssueLine, title, isColoured_ruler.isIssueLine, isIssueLine_dim _ _ _ _,
    isIssueLine_dim _ _ _ _, isIssueLine_dim _ _ _ _, isIssueLine_errors report,
    isIssueLine_warnings report, isIssueLine_empty, nofun⟩

/-! ### Pages -/

section Filter

variable {lines : List String}

theorem filter_of_frame (frame : ∀ line ∈ lines, isIssueLine line = false) :
    lines.filter isIssueLine = [] ∧ lines.filter (!isIssueLine ·) = lines := by
  constructor
  · exact List.filter_eq_nil_iff.mpr fun line member => Bool.not_eq_true _ ▸ frame line member
  · exact List.filter_eq_self.mpr fun line member => by rw [frame line member]; rfl

theorem filter_of_issues (about : ∀ line ∈ lines, isIssueLine line = true) :
    lines.filter isIssueLine = lines ∧ lines.filter (!isIssueLine ·) = [] := by
  constructor
  · exact List.filter_eq_self.mpr about
  · exact List.filter_eq_nil_iff.mpr fun line member => by rw [about line member]; decide

end Filter

theorem filter_fileLines (file : String) (issues : List Issue) :
    (fileLines file issues).filter isIssueLine = issues.flatMap issueLines ∧
      (fileLines file issues).filter (!isIssueLine ·) = [fileHeadline file issues, ""] := by
  have lines : fileLines file issues =
      [fileHeadline file issues] ++ issues.flatMap issueLines ++ [""] := rfl
  have about : ∀ line ∈ issues.flatMap issueLines, isIssueLine line = true := by
    intro line member
    obtain ⟨issue, -, inside⟩ := List.mem_flatMap.mp member
    exact isIssueLine_of_mem inside
  have headline := filter_of_frame
    (List.forall_mem_singleton.mpr (isColoured_fileHeadline file issues).isIssueLine)
  have ending := filter_of_frame (List.forall_mem_singleton.mpr isIssueLine_empty)
  rw [lines]
  simp only [List.filter_append, headline, filter_of_issues about, ending]
  exact ⟨List.append_nil _, rfl⟩

/-- The lines of a page that are about issues are those of the issues in the lists of its files, and
the other ones are its frame. -/
theorem filter_reportLines (path : String) (errorsOnly dryRun : Bool) (report : Report) :
    let files := byFile (shownIssues errorsOnly report.issues)
    let lines := reportLines path errorsOnly dryRun report
    lines.filter isIssueLine = (files.flatMap Prod.snd).flatMap issueLines ∧
      lines.filter (!isIssueLine ·) = frameLines path dryRun report files := by
  intro files lines
  have closing : ∀ line ∈ summaryLines report ++ [verdictLine report dryRun],
      isIssueLine line = false :=
    List.forall_mem_append.mpr ⟨isIssueLine_summaryLines report,
      List.forall_mem_singleton.mpr (isIssueLine_verdictLine report dryRun)⟩
  have parts : lines = openingLines path report ++
      files.flatMap (fun (file, issues) => fileLines file issues) ++
      (summaryLines report ++ [verdictLine report dryRun]) := by
    rw [← List.append_assoc]
    rfl
  rw [parts]
  simp only [List.filter_append, filter_of_frame (isIssueLine_openingLines path report),
    filter_of_frame closing, List.filter_flatMap, filter_fileLines, List.flatMap_assoc]
  exact ⟨List.append_nil _, rfl⟩

end Display

/-! ### Shown issues -/

theorem Severity.name_injective : Function.Injective Severity.name := by
  intro first second same
  cases first <;> cases second <;> first | rfl | exact absurd same (by decide)

theorem Json.ofText?_injective : Function.Injective Json.ofText? := by
  intro first second same
  cases first with
  | none =>
    cases second with
    | none => rfl
    | some text => cases same
  | some text =>
    cases second with
    | none => cases same
    | some text' => rw [Json.string.inj same]

theorem Issue.toJson_injective : Function.Injective Issue.toJson := by
  intro first second same
  obtain ⟨severity, code, message, file, location, suggestion⟩ := first
  obtain ⟨severity', code', message', file', location', suggestion'⟩ := second
  have members := Json.object.inj same
  simp only [List.cons.injEq, Prod.mk.injEq, Json.string.injEq, true_and, and_true] at members
  obtain ⟨severities, rfl, rfl, rfl, locations, suggestions⟩ := members
  rw [Severity.name_injective severities, Json.ofText?_injective locations,
    Json.ofText?_injective suggestions]

namespace Arguments

/-- The issues that the arguments ask for. -/
def wanted (arguments : Arguments) (issues : List Issue) : List Issue :=
  if arguments.errorsOnly then issues.filter (·.severity = .error) else issues

/-- An output shows these issues and no others. The lines of a page that begin with a bar are those
of the issues, and the other lines are the frame around the lists of its files. A report as JSON has
the issues in its member for them. -/
def Shows (arguments : Arguments) (report : Report) (output : String) (shown : List Issue) : Prop :=
  match arguments.output with
  | .text => ∃ lines files, output = Display.unlines lines ∧ files.flatMap Prod.snd = shown ∧
      lines.filter Display.isIssueLine = shown.flatMap Display.issueLines ∧
      lines.filter (!Display.isIssueLine ·) =
        Display.frameLines arguments.path arguments.dryRun report files
  | .json => ∃ value : Json, output = value.pretty ++ "\n" ∧
      value.member? "issues" = some (.array (shown.map Issue.toJson))

variable {arguments : Arguments}

theorem shows_of_text (form : arguments.output = .text) (report : Report) :
    ∃ shown, arguments.Shows report (arguments.shown report) shown ∧
      shown.Perm (arguments.wanted report.issues) := by
  have wanted : Display.shownIssues arguments.errorsOnly report.issues =
      arguments.wanted report.issues := by
    rw [Arguments.wanted, Display.shownIssues]
    cases arguments.errorsOnly with
    | true => simp only [Bool.not_true, Bool.false_or, if_true]
    | false => simp only [Bool.not_false, Bool.true_or, List.filter_true, if_neg Bool.false_ne_true]
  obtain ⟨issueLines, frame⟩ := Display.filter_reportLines arguments.path arguments.errorsOnly
    arguments.dryRun report
  refine ⟨(Display.byFile (arguments.wanted report.issues)).flatMap Prod.snd, ?_,
    (Display.perm_byFile _).2⟩
  rw [wanted] at issueLines frame
  rw [Shows, form, shown, form]
  exact ⟨_, _, rfl, rfl, issueLines, frame⟩

theorem shows_of_json (form : arguments.output = .json) (report : Report) :
    arguments.Shows report (arguments.shown report) report.issues := by
  rw [Shows, form, shown, form]
  exact ⟨_, rfl, rfl⟩

/-- A report as JSON shows the issues of one list only. -/
theorem eq_of_shows (form : arguments.output = .json) {report : Report} {output : String}
    {first second : List Issue} (shows : arguments.Shows report output first)
    (shows' : arguments.Shows report output second) : first = second := by
  rw [Shows, form] at shows shows'
  obtain ⟨value, printed, issues⟩ := shows
  obtain ⟨value', printed', issues'⟩ := shows'
  obtain rfl : value = value' :=
    Json.pretty_injective ((String.append_left_inj _).mp (printed.symm.trans printed'))
  have same := Json.array.inj (Option.some.inj (issues.symm.trans issues'))
  exact Issue.toJson_injective.list_map same

end Arguments

/-- A run that comes to a report shows the issues that were asked for, each of them once, exactly if
it is not asked for errors only in a report as JSON that has others. A report as JSON always shows
all issues. -/
theorem runCommand_shows_wanted_iff {σ : Type} (source : ExampleSource) (disk : Disk (StateM σ))
    (environment : Environment) (list : List String) (arguments : Arguments) (settings : Settings)
    (before middle : σ) (read : Arguments.ofList environment list = .ok arguments)
    (set : arguments.settings disk environment before = (.ok settings, middle)) :
    let report := (arguments.compile source disk settings middle).1
    let output := (runCommand source disk environment list before).1.output
    ((∃ shown, arguments.Shows report output shown ∧
          shown.Perm (arguments.wanted report.issues)) ↔
        ¬ (arguments.output = .json ∧ arguments.errorsOnly = true ∧
          ∃ issue ∈ report.issues, issue.severity ≠ .error)) ∧
      (arguments.output = .json → arguments.Shows report output report.issues) := by
  intro report output
  have ran : runCommand source disk environment list before = _ := run_runCommand read set
  have written : output = arguments.shown report := congrArg (fun run => run.1.output) ran
  rw [written]
  refine ⟨?_, fun form => arguments.shows_of_json form report⟩
  cases form : arguments.output with
  | text => exact iff_of_true (arguments.shows_of_text form report) fun others => nomatch others.1
  | json =>
    have all := arguments.shows_of_json form report
    constructor
    · rintro ⟨shown, shows, perm⟩ ⟨-, errorsOnly, issue, member, harmless⟩
      rw [Arguments.eq_of_shows form shows all, Arguments.wanted, if_pos errorsOnly] at perm
      exact harmless (of_decide_eq_true (List.mem_filter.mp (perm.subset member)).2)
    · intro kept
      refine ⟨report.issues, all, ?_⟩
      rw [Arguments.wanted]
      split
      · rename_i errorsOnly
        refine .of_eq (List.filter_eq_self.mpr fun issue member => decide_eq_true ?_).symm
        by_contra harmless
        exact kept ⟨rfl, errorsOnly, issue, member, harmless⟩
      · exact .refl _

/-- The warning that a contract has no interactions is not shown on a page of errors, which has the
refusal to write that contract, but it is shown in a report as JSON. -/
theorem runCommand_shows_wanted_iff_of_warning :
    let source : ExampleSource := ⟨fun _ => 0, default⟩
    let description := "\x7b\"consumer\":\"a\",\"provider\":\"b\",\"interactions\":[]\x7d"
    let tree : FileTree := ⟨[(["a.json"], .file description.toUTF8), (["pacts"], .file .empty)], []⟩
    let page : Arguments := { path := "a.json", errorsOnly := true }
    let report := (page.compile source FileTree.disk {} tree).1
    let output (list : List String) : String :=
      (runCommand source FileTree.disk (fun _ => none) list tree).1.output
    let refusal : Issue := .notWritten "a.json" (.refused ⟨"./pacts", .alreadyExists⟩)
    report.issues.map Issue.severity = [.warning, .error] ∧
      page.Shows report (output ["a.json", "-e"]) [refusal] ∧
      ¬ ∃ shown, { page with output := .json }.Shows report
        (output ["a.json", "-e", "-o", "json"]) shown ∧ shown.Perm (page.wanted report.issues) := by
  intro source description tree page report output refusal
  have issues : report.issues =
      [(Finding.located "interactions" .noInteractions).issue "a.json", refusal] := by
    decide +kernel
  have wanted : page.wanted report.issues = [refusal] := by
    rw [issues]
    rfl
  have read : Arguments.ofList (fun _ => none) ["a.json", "-e"] = .ok page := by decide +kernel
  have read' : Arguments.ofList (fun _ => none) ["a.json", "-e", "-o", "json"] =
      .ok { page with output := .json } := by
    decide +kernel
  have shown := (runCommand_shows_wanted_iff source FileTree.disk _ _ page {} tree tree read rfl).1
  have shown' := (runCommand_shows_wanted_iff source FileTree.disk _ _ { page with output := .json }
    {} tree tree read' rfl).1
  refine ⟨?_, ?_, ?_⟩
  · rw [issues]
    rfl
  · obtain ⟨issues, shows, perm⟩ := shown.mpr fun others => nomatch others.1
    obtain rfl : issues = [refusal] := List.perm_singleton.mp (perm.trans (.of_eq wanted))
    exact shows
  · have harmless : ∃ issue ∈ report.issues, issue.severity ≠ .error := by
      rw [issues]
      exact ⟨_, List.mem_cons_self, nofun⟩
    exact mt shown'.mp (not_not_intro ⟨rfl, rfl, harmless⟩)

/-- A run for errors only prints a warning, and it is the whole list of issues. -/
theorem warning_shown_among_errors :
    let source : ExampleSource := ⟨fun _ => 0, default⟩
    let description := "\x7b\"consumer\":\"a\",\"provider\":\"b\",\"interactions\":[]\x7d"
    let tree : FileTree := ⟨[(["a.json"], .file description.toUTF8)], []⟩
    let list := ["a.json", "--dry-run", "--errors-only", "--output", "json"]
    let warning : Issue := {
      severity := .warning
      code := "W001"
      message := "Contract declares no interactions"
      file := "a.json"
      location := some "interactions" }
    ∃ value : Json, (runCommand source FileTree.disk (fun _ => none) list tree).1.output =
      value.pretty ++ "\n" ∧ value.member? "issues" = some (.array [warning.toJson]) := by
  intro source description tree list warning
  let arguments : Arguments :=
    { path := "a.json", dryRun := true, errorsOnly := true, output := .json }
  have read : Arguments.ofList (fun _ => none) list = .ok arguments := by decide +kernel
  have set : arguments.settings FileTree.disk (fun _ => none) tree = (.ok {}, tree) := rfl
  have issues : (arguments.compile source FileTree.disk {} tree).1.issues = [warning] := by
    decide +kernel
  refine ⟨(arguments.compile source FileTree.disk {} tree).1.toJson, ?_, ?_⟩
  · rw [run_runCommand read set]
    rfl
  · exact congrArg (fun issues => some (Json.array (issues.map Issue.toJson))) issues

end ConsumerContract
