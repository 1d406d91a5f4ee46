/-
This file writes reports for people to read. The issues are put together by
file, in the order of the names of the files, and a summary follows. Colours are
escape sequences of terminals.
-/

import ConsumerContract.Files.FileName
import ConsumerContract.Keyed
import ConsumerContract.Report

namespace ConsumerContract.Display

/-! ### Colours -/

def green : String := "\x1b[32m"

def red : String := "\x1b[31m"

def yellow : String := "\x1b[33m"

def cyan : String := "\x1b[36m"

def bold : String := "\x1b[1m"

def dim : String := "\x1b[2m"

/-- Ends all colours. -/
def plain : String := "\x1b[0m"

/-- A text in a colour or a style. -/
def styled (style text : String) : String :=
  style ++ text ++ plain

/-- The colour of a severity. -/
def severityColour : Severity → String
  | .error => red
  | .warning => yellow
  | .info => cyan

/-- A line across the page. -/
def ruler : String :=
  styled dim (String.ofList (List.replicate 52 '━'))

/-! ### Issues -/

/-- The place of an issue in brackets. -/
def locationText : Option String → String
  | none => ""
  | some location => dim ++ "[" ++ plain ++ cyan ++ location ++ plain ++ dim ++ "]" ++ plain

/-- The lines about an issue. -/
def issueLines (issue : Issue) : List String :=
  let colour := severityColour issue.severity
  let bar := "  " ++ styled colour "|" ++ " "
  let headline :=
    bar ++ locationText issue.location ++ " " ++ styled (bold ++ colour) issue.severity.name ++
      ": " ++ issue.message ++ " " ++ dim ++ "(" ++ colour ++ issue.code ++ dim ++ ")" ++ plain
  match issue.suggestion with
  | none => [headline]
  | some suggestion => [headline, bar ++ "  " ++ styled green ("-> " ++ suggestion)]

/-- The word for how bad the issues of a file are. -/
def statusText (issues : List Issue) : String :=
  if issues.any (·.severity = .error) then styled red "FAIL"
  else if issues.any (·.severity = .warning) then styled yellow "WARN"
  else styled green "OK" ++ "  "

/-- The lines about a file. -/
def fileLines (file : String) (issues : List Issue) : List String :=
  (statusText issues ++ " " ++ styled (bold ++ cyan) ((FileName.last? file).getD "")) ::
    issues.flatMap issueLines ++ [""]

/-- Issues by file; those of one file keep their order. -/
def byFile (issues : List Issue) : Keyed (List Issue) :=
  issues.foldl (fun (files : Keyed (List Issue)) issue =>
    files.insert issue.file ((files.find? issue.file).getD [] ++ [issue])) []

/-- The issues that are shown. -/
def shownIssues (errorsOnly : Bool) (issues : List Issue) : List Issue :=
  issues.filter fun issue => !errorsOnly || issue.severity = .error

/-! ### Whole reports -/

/-- A number in the summary. -/
def countLine (style name blanks : String) (numberStyle : String) (number : Nat) : String :=
  "  " ++ styled style (name ++ ":") ++ blanks ++ styled numberStyle (decimalText number)

/-- The lines of the summary. -/
def summaryLines (report : Report) : List String :=
  [ruler, styled (bold ++ cyan) "Summary", ruler,
    countLine dim "Files checked" " " bold report.filesChecked,
    countLine dim "Interactions" "  " bold report.interactionsCompiled,
    countLine dim "Contracts" "     " bold report.contracts.length,
    (if 0 < report.errors then countLine red "Errors" "        " (bold ++ red) report.errors
      else countLine green "Errors" "        " (bold ++ green) 0),
    (if 0 < report.warnings then
        countLine yellow "Warnings" "      " (bold ++ yellow) report.warnings
      else countLine dim "Warnings" "      " bold 0),
    ""]

/-- The line about how it all went. -/
def verdictLine (report : Report) (dryRun : Bool) : String :=
  if 0 < report.errors then styled (red ++ bold) "Compilation failed with errors"
  else if dryRun then styled (green ++ bold) "Dry run passed"
  else styled (green ++ bold) "All contracts compiled!"

/-- The lines of a report about a path. -/
def reportLines (path : String) (errorsOnly dryRun : Bool) (report : Report) : List String :=
  [styled (bold ++ cyan) "Pact Contract Compiler", ruler,
    styled dim "Scanning:" ++ " " ++ styled cyan path, ""] ++
  (if report.issues.isEmpty then [styled (green ++ bold) "No issues found!"] else []) ++
  (byFile (shownIssues errorsOnly report.issues)).flatMap (fun (file, issues) =>
    fileLines file issues) ++
  summaryLines report ++ [verdictLine report dryRun]

/-- Lines, each with its end. -/
def unlines (lines : List String) : String :=
  String.join (lines.map (· ++ "\n"))

/-- A report about a path. -/
def reportText (path : String) (errorsOnly dryRun : Bool) (report : Report) : String :=
  unlines (reportLines path errorsOnly dryRun report)

end ConsumerContract.Display
