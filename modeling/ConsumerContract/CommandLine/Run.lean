/-
This file runs the command: it reads the arguments, finds the settings, compiles
what the path names and shows the report. Arguments come before variables of the
environment, and both come before a settings file. The exit status tells whether
there were errors, or that the command was misused.
-/

import ConsumerContract.CommandLine.Arguments
import ConsumerContract.CommandLine.Display
import ConsumerContract.Json.Printer

namespace ConsumerContract

/-- What a run of the command leaves, apart from files. -/
structure RunOutcome where
  status : UInt8
  output : String := ""
  errors : String := ""
  deriving DecidableEq, Repr, Inhabited

/-- Why nothing was compiled. -/
inductive RunFailure where
  | settingsFile (file : String) (error : SettingsError)
  | environment (problem : SettingsProblem)
  | settings (problem : SettingsProblem)
  deriving DecidableEq, Repr, Inhabited

namespace RunFailure

/-- What was being done. -/
def context : RunFailure → String
  | settingsFile file _ => "failed to load configuration from " ++ file
  | environment _ => "invalid PACT_* environment"
  | settings _ => "invalid configuration"

/-- The causes, from the outermost on. -/
def causes : RunFailure → List String
  | settingsFile _ (.invalid problem) | environment problem | settings problem =>
    [problem.message]
  | settingsFile _ (.unreadable refusal) => [refusal.message, refusal.fault.message]

/-- A text whose lines after the first are indented. -/
def indented (first others text : String) : String :=
  first ++ String.ofList (text.toList.flatMap fun char =>
    if char = '\n' then '\n' :: others.toList else [char])

/-- The lines about causes; several ones are numbered. -/
def causeLines (causes : List String) : List String :=
  match causes with
  | [cause] => [indented "    " "    " cause]
  | causes => causes.mapIdx fun position cause =>
    indented ("    " ++ decimalText position ++ ": ") "       " cause

/-- The wording of a failure. -/
def message (failure : RunFailure) : String :=
  Display.unlines (["Error: " ++ failure.context, "", "Caused by:"] ++ causeLines failure.causes)

end RunFailure

/-- The wording of a request for the version. -/
def versionText : String :=
  "pact-compile " ++ Document.libraryVersion ++ "\n"

/-- The wording of a request for help. -/
def helpText : String :=
  Display.unlines [
    "Compile Pact integration JSON interaction files into contracts",
    "",
    usage,
    "",
    "Arguments:",
    "  <PATH>  Path to a contract description or a directory of them",
    "",
    "Options:",
    "  -o, --output <OUTPUT>        Output format [default: text] [possible values: text, json]",
    "      --out-dir <OUT_DIR>      Directory finished contracts are written to " ++
      "[env: PACT_OUTPUT_DIR=]",
    "      --max-depth <MAX_DEPTH>  Nesting limit for interaction bodies [env: PACT_MAX_DEPTH=]",
    "  -c, --config <CONFIG>        YAML configuration file",
    "      --dry-run                Compile and report without writing contracts",
    "  -e, --errors-only            Only show errors (hide warnings and info)",
    "  -h, --help                   Print help",
    "  -V, --version                Print version"]

/-- The outcome of arguments that ask for nothing to be compiled. -/
def Interruption.outcome : Interruption → RunOutcome
  | help => { status := 0, output := helpText }
  | version => { status := 0, output := versionText }
  | misuse problem => { status := 2, errors := problem.message }

namespace Arguments

/-- Settings in which the arguments have replaced what they give. -/
def override (arguments : Arguments) (settings : Settings) : Settings :=
  { settings with
    outputDirectory := arguments.outputDirectory.getD settings.outputDirectory
    maxDepth := arguments.maxDepth.getD settings.maxDepth }

variable {m : Type → Type} [Monad m]

/-- The settings before the arguments are applied: those of the file, if one is given, and
otherwise those of the environment. -/
def baseSettings (arguments : Arguments) (disk : Disk m) (environment : Environment) :
    m (Except RunFailure Settings) := do
  match arguments.settingsFile with
  | some file => return (← Settings.ofFile disk file).mapError (.settingsFile file)
  | none => return (Settings.ofEnvironment environment).mapError .environment

/-- The settings of the run. -/
def settings (arguments : Arguments) (disk : Disk m) (environment : Environment) :
    m (Except RunFailure Settings) := do
  match ← arguments.baseSettings disk environment with
  | .error failure => return .error failure
  | .ok settings => return (arguments.override settings).check.mapError .settings

/-- Compiles what the path names. -/
def compile (arguments : Arguments) (source : ExampleSource) (disk : Disk m)
    (settings : Settings) : m Report := do
  let options := settings.compileOptions arguments.dryRun
  if ← disk.isDirectory arguments.path then
    Compilation.ofDirectory source disk options arguments.path
  else Compilation.ofFile source disk options arguments.path

/-- The report in the form that was asked for. -/
def shown (arguments : Arguments) (report : Report) : String :=
  match arguments.output with
  | .text => Display.reportText arguments.path arguments.errorsOnly arguments.dryRun report
  | .json => report.toJson.pretty ++ "\n"

/-- The outcome of a report. -/
def outcome (arguments : Arguments) (report : Report) : RunOutcome where
  status := if report.hasErrors then 1 else 0
  output := arguments.shown report

end Arguments

/-- Runs the command. -/
def runCommand {m : Type → Type} [Monad m] (source : ExampleSource) (disk : Disk m)
    (environment : Environment) (arguments : List String) : m RunOutcome := do
  match Arguments.ofList environment arguments with
  | .error interruption => return interruption.outcome
  | .ok arguments =>
    match ← arguments.settings disk environment with
    | .error failure => return { status := 1, errors := failure.message }
    | .ok settings => return arguments.outcome (← arguments.compile source disk settings)

end ConsumerContract
