/-
This file holds reports, the issues that were found in contract descriptions
together with some totals. The numbers of errors and warnings are kept while
issues are added, so that they never have to be counted again.
-/

import ConsumerContract.Json.Basic

namespace ConsumerContract

/-- How bad an issue is. -/
inductive Severity where
  /-- The contract can not be produced. -/
  | error
  /-- The contract is produced, but it is probably not what was meant. -/
  | warning
  | info
  deriving DecidableEq, Repr, Inhabited

/-- The name of a severity. -/
def Severity.name : Severity → String
  | error => "error"
  | warning => "warning"
  | info => "info"

/-- Something found in a file. -/
structure Issue where
  severity : Severity
  code : String
  message : String
  file : String
  /-- The place inside the file. -/
  location : Option String := none
  suggestion : Option String := none
  deriving DecidableEq, Repr, Inhabited

/-- The issue as JSON. -/
def Issue.toJson (issue : Issue) : Json :=
  .object [("severity", .string issue.severity.name),
    ("code", .string issue.code),
    ("message", .string issue.message),
    ("file", .string issue.file),
    ("location", .ofText? issue.location),
    ("suggestion", .ofText? issue.suggestion)]

/-- What came of compiling some files. -/
structure Report where
  issues : List Issue := []
  filesChecked : Nat := 0
  interactionsCompiled : Nat := 0
  /-- The files of the contracts that were written. -/
  contracts : List String := []
  errors : Nat := 0
  warnings : Nat := 0
  deriving DecidableEq, Repr, Inhabited

namespace Report

/-- The report before anything is compiled. -/
def empty : Report := {}

/-- Adds an issue and counts it. -/
def addIssue (report : Report) (issue : Issue) : Report :=
  match issue.severity with
  | .error => { report with issues := report.issues ++ [issue], errors := report.errors + 1 }
  | .warning => { report with issues := report.issues ++ [issue], warnings := report.warnings + 1 }
  | .info => { report with issues := report.issues ++ [issue] }

/-- Adds issues in order. -/
def addIssues (report : Report) (issues : List Issue) : Report :=
  issues.foldl addIssue report

/-- Appends another report. -/
def merge (report other : Report) : Report where
  issues := report.issues ++ other.issues
  filesChecked := report.filesChecked + other.filesChecked
  interactionsCompiled := report.interactionsCompiled + other.interactionsCompiled
  contracts := report.contracts ++ other.contracts
  errors := report.errors + other.errors
  warnings := report.warnings + other.warnings

/-- Whether some issue is an error. -/
def hasErrors (report : Report) : Bool :=
  0 < report.errors

/-- Whether some issue is a warning. -/
def hasWarnings (report : Report) : Bool :=
  0 < report.warnings

/-- Whether no issue is an error. -/
def isValid (report : Report) : Bool :=
  report.errors = 0

/-- The report as JSON. -/
def toJson (report : Report) : Json :=
  .object [("issues", .array (report.issues.map Issue.toJson)),
    ("filesChecked", .ofNat report.filesChecked),
    ("interactionsCompiled", .ofNat report.interactionsCompiled),
    ("contracts", .array (report.contracts.map .string)),
    ("errors", .ofNat report.errors),
    ("warnings", .ofNat report.warnings)]

end Report

end ConsumerContract
