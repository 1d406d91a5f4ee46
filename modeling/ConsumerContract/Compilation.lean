/-
This file compiles descriptions of contracts into contract files. A description
comes as a value, as text, from a file or from all files of a directory. What is
found on the way is reported, and a contract is written only if nothing that was
found is an error.
-/

import ConsumerContract.Description.Reading
import ConsumerContract.Json.Parser
import ConsumerContract.Pact.Writer

namespace ConsumerContract

/-- How descriptions are compiled. -/
structure CompileOptions where
  /-- The nesting limit for the messages. -/
  maxDepth : Nat := Node.defaultMaxDepth
  /-- Where contracts go. Without a directory nothing is written. -/
  outputDirectory : Option String := none
  /-- Compiles and reports without writing. -/
  dryRun : Bool := false
  deriving DecidableEq, Repr, Inhabited

/-- The directory that contracts are written to, if they are written at all. -/
def CompileOptions.target? (options : CompileOptions) : Option String :=
  if options.dryRun then none else options.outputDirectory

/-- Whether a clean contract is written. -/
def CompileOptions.writes (options : CompileOptions) : Bool :=
  options.target?.isSome

/-! ### Issues about whole files -/

namespace Issue

/-- A file that can not be read. -/
def unreadableFile (file : String) (fault : FileFault) : Issue where
  severity := .error
  code := "E001"
  message := "Failed to read file: " ++ fault.message
  file := file

/-- A directory that can not be read. -/
def unreadableDirectory (directory : String) (fault : FileFault) : Issue where
  severity := .error
  code := "E001"
  message := "Failed to read directory: " ++ fault.message
  file := directory

/-- A text that is no JSON. -/
def notJson (file problem : String) (suggestion : Option String) : Issue where
  severity := .error
  code := "E002"
  message := "Invalid JSON: " ++ problem
  file := file
  suggestion := suggestion

/-- A contract that could not be written. -/
def notWritten (file : String) (problem : WriteError) : Issue where
  severity := .error
  code := "E020"
  message := "Failed to write contract: " ++ problem.message
  file := file
  suggestion := some "Check that the output directory is writable"

/-- A contract that was written. -/
def written (file contract : String) : Issue where
  severity := .info
  code := "I001"
  message := "Wrote contract " ++ contract
  file := file

end Issue

/-! ### Compiling -/

namespace Compilation

variable {m : Type → Type} [Monad m]

/-- The report before a description is looked at. -/
def start : Report :=
  { filesChecked := 1 }

/-- Writes the contract of a description and reports how that went. -/
def write (disk : Disk m) (file : String) (pact : Pact) (directory : String) (report : Report) :
    m Report := do
  match ← pact.writeTo disk directory with
  | .error problem => return report.addIssue (.notWritten file problem)
  | .ok contract =>
    let report := report.addIssue (.written file contract)
    return { report with contracts := report.contracts ++ [contract] }

/-- Compiles a description. -/
def ofValue (source : ExampleSource) (disk : Disk m) (options : CompileOptions) (file : String)
    (value : Json) : m Report :=
  let reading := Description.contract source options.maxDepth value
  let report := reading.addTo file start
  match reading.pact, options.target? with
  | some pact, some directory =>
    if report.hasErrors then return report else write disk file pact directory report
  | _, _ => return report

/-- Compiles the text of a description. -/
def ofText (source : ExampleSource) (disk : Disk m) (options : CompileOptions) (file text : String)
    (suggestion : Option String) : m Report :=
  match Json.parse text with
  | .error problem => return start.addIssue (.notJson file problem suggestion)
  | .ok value => ofValue source disk options file value

/-- Compiles the description in a file. -/
def ofFile (source : ExampleSource) (disk : Disk m) (options : CompileOptions) (file : String) :
    m Report := do
  match ← disk.readText file with
  | .error fault => return start.addIssue (.unreadableFile file fault)
  | .ok text => ofText source disk options file text (some "Check for JSON syntax errors")

/-- Of the entries of a directory, the files that hold descriptions. -/
def descriptionFiles (disk : Disk m) (directory : String) : List String → m (List String)
  | [] => return []
  | name :: rest => do
    let file := FileName.join directory name
    let others ← descriptionFiles disk directory rest
    if FileName.extension? file = some "json" then
      if ← disk.isFile file then return file :: others
    return others

/-- Compiles files one after the other, behind what has been reported so far. -/
def ofFiles (source : ExampleSource) (disk : Disk m) (options : CompileOptions)
    (report : Report) : List String → m Report
  | [] => return report
  | file :: rest => do
    let added ← ofFile source disk options file
    ofFiles source disk options (report.merge added) rest

/-- Compiles the descriptions that lie directly in a directory, in the order of their names. -/
def ofDirectory (source : ExampleSource) (disk : Disk m) (options : CompileOptions)
    (directory : String) : m Report := do
  match ← disk.list directory with
  | .error fault => return Report.empty.addIssue (.unreadableDirectory directory fault)
  | .ok names =>
    let files ← descriptionFiles disk directory (names.mergeSort (· ≤ ·))
    ofFiles source disk options .empty files

end Compilation

end ConsumerContract
