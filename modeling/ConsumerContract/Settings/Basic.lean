/-
This file holds the settings of a run: where contracts are written, how deep
messages may be nested, and which log messages are wanted. Settings come from a
YAML file or from variables of the environment, and are checked in both cases.
-/

import ConsumerContract.Character.Property
import ConsumerContract.Compilation
import ConsumerContract.Settings.Document

namespace ConsumerContract

/-- The settings of a run. -/
structure Settings where
  /-- The directory that contracts are written to. -/
  outputDirectory : String := "./pacts"
  /-- The nesting limit for messages. -/
  maxDepth : Nat := Node.defaultMaxDepth
  /-- The filter for log messages. -/
  logFilter : String := "info"
  deriving DecidableEq, Repr, Inhabited

/-- The variables of an environment. -/
abbrev Environment := String → Option String

/-- What is wrong with settings. -/
inductive SettingsProblem where
  | malformed (fault : DocumentFault)
  /-- The variable for the nesting limit holds no number. -/
  | invalidDepth (text : String)
  | zeroDepth
  | noDirectory
  deriving DecidableEq, Repr, Inhabited

/-- Why there are no settings. -/
inductive SettingsError where
  | invalid (problem : SettingsProblem)
  | unreadable (refusal : FileRefusal)
  deriving DecidableEq, Repr, Inhabited

namespace Settings

/-- The variable for the directory that contracts are written to. -/
def outputDirectoryVariable : String := "PACT_OUTPUT_DIR"

/-- The variable for the nesting limit. -/
def maxDepthVariable : String := "PACT_MAX_DEPTH"

/-- The variable for the filter of log messages. -/
def logFilterVariable : String := "PACT_LOG"

/-- The settings where nothing else is said. -/
def standard : Settings := {}

end Settings

/-- The wording of a problem. -/
def SettingsProblem.message (problem : SettingsProblem) : String :=
  "Invalid configuration: " ++
    match problem with
    | malformed fault => "failed to parse configuration: " ++ fault.message
    | invalidDepth text =>
      Settings.maxDepthVariable ++ " must be a positive integer, got '" ++ text ++ "'"
    | zeroDepth => "maxDepth must be at least 1"
    | noDirectory => "outputDir must not be empty"

/-- The wording of an error. -/
def SettingsError.message : SettingsError → String
  | invalid problem => problem.message
  | unreadable refusal => refusal.message

namespace Settings

/-- Settings that can be used. -/
def check (settings : Settings) : Except SettingsProblem Settings :=
  if settings.maxDepth = 0 then .error .zeroDepth
  else if settings.outputDirectory = "" then .error .noDirectory
  else .ok settings

/-! ### Documents and files -/

/-- The settings of a document; what it does not say is as usual. -/
def ofDocument (document : SettingsDocument) : Settings where
  outputDirectory := document.outputDirectory.getD standard.outputDirectory
  maxDepth := document.maxDepth.getD standard.maxDepth
  logFilter := document.logFilter.getD standard.logFilter

/-- The settings that a YAML text gives. -/
def ofText (text : String) : Except SettingsProblem Settings := do
  let document ← (SettingsDocument.ofText text).mapError .malformed
  (ofDocument document).check

/-- The settings of a YAML file. -/
def ofFile {m : Type → Type} [Monad m] (disk : Disk m) (file : String) :
    m (Except SettingsError Settings) := do
  match ← disk.readText file with
  | .error fault => return .error (.unreadable ⟨file, fault⟩)
  | .ok text => return (ofText text).mapError .invalid

/-! ### The environment -/

/-- A number in decimal digits, with or without a plus sign, that fits in a 64-bit word. -/
def depth? (text : List Char) : Option Nat :=
  let digits :=
    match text with
    | '+' :: rest => rest
    | rest => rest
  (Digit.ofText? digits).bind fun digits =>
    if Digit.value digits < UInt64.size then some (Digit.value digits) else none

/-- The nesting limit in the environment; blanks around it do not count. -/
def environmentDepth (environment : Environment) : Except SettingsProblem Nat :=
  match environment maxDepthVariable with
  | none => .ok standard.maxDepth
  | some text =>
    match depth? (Character.trimmed text.toList) with
    | some depth => .ok depth
    | none => .error (.invalidDepth text)

/-- The settings that the environment gives; what it does not say is as usual. -/
def ofEnvironment (environment : Environment) : Except SettingsProblem Settings := do
  let maxDepth ← environmentDepth environment
  let settings : Settings := {
    outputDirectory := (environment outputDirectoryVariable).getD standard.outputDirectory
    maxDepth
    logFilter := (environment logFilterVariable).getD standard.logFilter }
  settings.check

/-! ### Use -/

/-- How descriptions are compiled with these settings. -/
def compileOptions (settings : Settings) (dryRun : Bool) : CompileOptions where
  maxDepth := settings.maxDepth
  outputDirectory := some settings.outputDirectory
  dryRun := dryRun

/-- The settings as JSON. -/
def toJson (settings : Settings) : Json :=
  .object [(SettingsKey.outputDirectory.name, .string settings.outputDirectory),
    (SettingsKey.maxDepth.name, .ofNat settings.maxDepth),
    (SettingsKey.logFilter.name, .string settings.logFilter)]

end Settings

end ConsumerContract
