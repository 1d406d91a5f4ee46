/-
This file reads the arguments of the command line. They are taken one after the
other, so the first one that is misused decides, and a request for help or for
the version ends the reading. Some options may be given by variables of the
environment instead; those are looked at only where the option itself is missing.
-/

import ConsumerContract.Settings.Basic

namespace ConsumerContract

/-- The forms of a report. -/
inductive OutputFormat where
  | text
  | json
  deriving DecidableEq, Repr, Inhabited

/-- The form with a name. -/
def OutputFormat.ofName? : String → Option OutputFormat
  | "text" => some text
  | "json" => some json
  | _ => none

/-- What the command line asks for. -/
structure Arguments where
  /-- The file or the directory that is compiled. -/
  path : String
  output : OutputFormat := .text
  outputDirectory : Option String := none
  maxDepth : Option Nat := none
  settingsFile : Option String := none
  dryRun : Bool := false
  errorsOnly : Bool := false
  deriving DecidableEq, Repr, Inhabited

/-- The options without a value. -/
inductive Flag where
  | dryRun
  | errorsOnly
  | help
  | version
  deriving DecidableEq, Repr, Inhabited

/-- The options with a value. -/
inductive ValueOption where
  | output
  | outputDirectory
  | maxDepth
  | settingsFile
  deriving DecidableEq, Repr, Inhabited

/-- An option. -/
inductive CommandOption where
  | flag (flag : Flag)
  | value (option : ValueOption)
  deriving DecidableEq, Repr, Inhabited

namespace CommandOption

/-- The option with a long name. -/
def ofLongName? : String → Option CommandOption
  | "dry-run" => some (flag .dryRun)
  | "errors-only" => some (flag .errorsOnly)
  | "help" => some (flag .help)
  | "version" => some (flag .version)
  | "output" => some (value .output)
  | "out-dir" => some (value .outputDirectory)
  | "max-depth" => some (value .maxDepth)
  | "config" => some (value .settingsFile)
  | _ => none

/-- The option with a letter. -/
def ofLetter? : Char → Option CommandOption
  | 'e' => some (flag .errorsOnly)
  | 'h' => some (flag .help)
  | 'V' => some (flag .version)
  | 'o' => some (value .output)
  | 'c' => some (value .settingsFile)
  | _ => none

end CommandOption

/-- The name of a flag in messages. -/
def Flag.name : Flag → String
  | dryRun => "--dry-run"
  | errorsOnly => "--errors-only"
  | help => "--help"
  | version => "--version"

/-- The name of an option in messages. -/
def ValueOption.name : ValueOption → String
  | output => "--output <OUTPUT>"
  | outputDirectory => "--out-dir <OUT_DIR>"
  | maxDepth => "--max-depth <MAX_DEPTH>"
  | settingsFile => "--config <CONFIG>"

/-- How the command line was misused. -/
inductive UsageProblem where
  | unexpectedArgument (argument : String)
  | unexpectedValue (value name : String)
  | repeated (name : String)
  | missingValue (name : String)
  | invalidValue (value name : String)
  | missingPath
  deriving DecidableEq, Repr, Inhabited

/-- How the command is called. -/
def usage : String :=
  "Usage: pact-compile [OPTIONS] <PATH>"

/-- The wording of a problem. -/
def UsageProblem.message (problem : UsageProblem) : String :=
  let fault :=
    match problem with
    | unexpectedArgument argument => "unexpected argument '" ++ argument ++ "' found"
    | unexpectedValue value name =>
      "unexpected value '" ++ value ++ "' for '" ++ name ++ "' found; no more were expected"
    | repeated name => "the argument '" ++ name ++ "' cannot be used multiple times"
    | missingValue name => "a value is required for '" ++ name ++ "' but none was supplied"
    | invalidValue value name => "invalid value '" ++ value ++ "' for '" ++ name ++ "'"
    | missingPath => "the following required arguments were not provided:\n  <PATH>"
  "error: " ++ fault ++ "\n\n" ++ usage ++ "\n\nFor more information, try '--help'.\n"

/-- Why the arguments are not read to their end. -/
inductive Interruption where
  | help
  | version
  | misuse (problem : UsageProblem)
  deriving DecidableEq, Repr, Inhabited

/-- The arguments that have been read. -/
structure GivenArguments where
  path : Option String := none
  output : Option OutputFormat := none
  outputDirectory : Option String := none
  maxDepth : Option Nat := none
  settingsFile : Option String := none
  dryRun : Bool := false
  errorsOnly : Bool := false
  deriving DecidableEq, Repr, Inhabited

namespace GivenArguments

/-- Stops at a problem. -/
def refuse {α : Type} (problem : UsageProblem) : Except Interruption α :=
  .error (.misuse problem)

/-! ### Single options -/

/-- Sets a flag, which must not be set twice. -/
def setFlag (given : GivenArguments) : Flag → Except Interruption GivenArguments
  | .help => .error .help
  | .version => .error .version
  | .dryRun =>
    if given.dryRun then refuse (.repeated Flag.dryRun.name) else .ok { given with dryRun := true }
  | .errorsOnly =>
    if given.errorsOnly then refuse (.repeated Flag.errorsOnly.name)
    else .ok { given with errorsOnly := true }

/-- A name of a file or a directory, which must not be empty. -/
def fileName (name value : String) : Except Interruption String :=
  if value = "" then refuse (.missingValue name) else .ok value

/-- A nesting limit. -/
def depth (name value : String) : Except Interruption Nat :=
  match Settings.depth? value.toList with
  | some depth => .ok depth
  | none => refuse (.invalidValue value name)

/-- The form of the report. -/
def format (name value : String) : Except Interruption OutputFormat :=
  match OutputFormat.ofName? value with
  | some format => .ok format
  | none => refuse (.invalidValue value name)

/-- Whether an option has a value. -/
def has (given : GivenArguments) : ValueOption → Bool
  | .output => given.output.isSome
  | .outputDirectory => given.outputDirectory.isSome
  | .maxDepth => given.maxDepth.isSome
  | .settingsFile => given.settingsFile.isSome

/-- Sets an option, which must not be set twice. -/
def setValue (given : GivenArguments) (option : ValueOption) (value : String) :
    Except Interruption GivenArguments := do
  if given.has option then refuse (.repeated option.name)
  match option with
  | .output => return { given with output := some (← format option.name value) }
  | .outputDirectory => return { given with outputDirectory := some (← fileName option.name value) }
  | .maxDepth => return { given with maxDepth := some (← depth option.name value) }
  | .settingsFile => return { given with settingsFile := some (← fileName option.name value) }

/-- Sets what is compiled; there is only one path. -/
def setPath (given : GivenArguments) (value : String) : Except Interruption GivenArguments := do
  if given.path.isSome then refuse (.unexpectedArgument value)
  return { given with path := some (← fileName "<PATH>" value) }

/-! ### All arguments -/

/-- Whether an argument can only be an option. -/
def isOption (argument : String) : Bool :=
  match argument.toList with
  | '-' :: _ :: _ => true
  | _ => false

/-- An option by its long name, with the value behind an equals sign. -/
def setLong (given : GivenArguments) (argument : List Char) :
    Except Interruption (GivenArguments × Option ValueOption) := do
  let name := String.ofList (argument.takeWhile (· ≠ '='))
  let value? : Option String :=
    match argument.dropWhile (· ≠ '=') with
    | _ :: value => some (String.ofList value)
    | [] => none
  match CommandOption.ofLongName? name, value? with
  | none, _ => refuse (.unexpectedArgument ("--" ++ name))
  | some (.flag flag), none => return (← given.setFlag flag, none)
  | some (.flag flag), some value => refuse (.unexpectedValue value flag.name)
  | some (.value option), some value => return (← given.setValue option value, none)
  | some (.value option), none => return (given, some option)

/-- Options by their letters. The rest behind the letter of an option with a value is that
value. -/
def setLetters (given : GivenArguments) :
    List Char → Except Interruption (GivenArguments × Option ValueOption)
  | [] => .ok (given, none)
  | letter :: rest =>
    match CommandOption.ofLetter? letter with
    | none => refuse (.unexpectedArgument ("-" ++ letter.toString))
    | some (.flag flag) => do
      let next ← given.setFlag flag
      next.setLetters rest
    | some (.value option) =>
      match rest with
      | [] => .ok (given, some option)
      | '=' :: value | value => do return (← given.setValue option (String.ofList value), none)

/-- Takes arguments in order. A value that is still missing comes first, and behind two
hyphens there are only paths. -/
def takeAll (given : GivenArguments) (missing : Option ValueOption) (onlyPaths : Bool) :
    List String → Except Interruption GivenArguments
  | [] =>
    match missing with
    | none => .ok given
    | some option => refuse (.missingValue option.name)
  | argument :: rest =>
    match missing with
    | some option =>
      if isOption argument then refuse (.missingValue option.name)
      else do
        let next ← given.setValue option argument
        next.takeAll none onlyPaths rest
    | none =>
      if onlyPaths ∨ !isOption argument then do
        let next ← given.setPath argument
        next.takeAll none onlyPaths rest
      else if argument = "--" then given.takeAll none true rest
      else do
        let (next, missing) ←
          match argument.toList with
          | '-' :: '-' :: name => given.setLong name
          | letters => given.setLetters (letters.drop 1)
        next.takeAll missing false rest

/-- Takes the value of an option from the environment, if it is missing. -/
def setFromEnvironment (environment : Environment) (option : ValueOption) (variableName : String)
    (given : GivenArguments) : Except Interruption GivenArguments :=
  if given.has option then .ok given
  else
    match environment variableName with
    | none => .ok given
    | some value => given.setValue option value

/-- The arguments with all that is missing. -/
def complete (given : GivenArguments) : Except Interruption Arguments :=
  match given.path with
  | none => refuse .missingPath
  | some path =>
    .ok {
      path
      output := given.output.getD .text
      outputDirectory := given.outputDirectory
      maxDepth := given.maxDepth
      settingsFile := given.settingsFile
      dryRun := given.dryRun
      errorsOnly := given.errorsOnly }

end GivenArguments

/-- Reads the arguments of the command line. -/
def Arguments.ofList (environment : Environment) (arguments : List String) :
    Except Interruption Arguments := do
  let given ← GivenArguments.takeAll {} none false arguments
  let given ←
    given.setFromEnvironment environment .outputDirectory Settings.outputDirectoryVariable
  let given ← given.setFromEnvironment environment .maxDepth Settings.maxDepthVariable
  given.complete

end ConsumerContract
