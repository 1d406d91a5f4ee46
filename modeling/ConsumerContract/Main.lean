/-
This file is the command line program. It runs the command on the files of the
system, prints what the run leaves, and ends with its status. Computed examples
are drawn from random bytes and from the current time.
-/

import ConsumerContract.CommandLine.Run
import Std.Time.DateTime.Timestamp

namespace ConsumerContract.Program

/-- The number of a refusal of the system and its wording. -/
def refusal : IO.Error → Option Nat × String
  | .alreadyExists _ code details | .otherError code details | .resourceBusy code details
  | .resourceVanished code details | .unsupportedOperation code details
  | .hardwareFault code details | .unsatisfiedConstraints code details
  | .illegalOperation code details | .protocolError code details | .timeExpired code details
  | .interrupted _ code details | .noFileOrDirectory _ code details
  | .invalidArgument _ code details | .permissionDenied _ code details
  | .resourceExhausted _ code details | .inappropriateType _ code details
  | .noSuchThing _ code details => (some code.toNat, details)
  | .unexpectedEof => (none, "unexpected end of file")
  | .userError message => (none, message)

/-- A number of a refusal without its sign: some of them are kept as negative words. -/
def unsignedCode (code : Nat) : Nat :=
  if code < 0x80000000 then code else UInt32.size - code

/-- A wording with a capital in front. -/
def capitalized (message : String) : String :=
  match message.toList with
  | [] => message
  | first :: rest => String.ofList (first.toUpper :: rest)

/-- The fault for a refusal of the system. -/
def fault (error : IO.Error) : FileFault :=
  let (code, details) := refusal error
  match code.map unsignedCode with
  | some 2 => .notFound
  | some 17 => .alreadyExists
  | some 20 => .notDirectory
  | some 21 => .isDirectory
  | some 36 => .nameTooLong
  | some other => .other (capitalized details ++ " (os error " ++ decimalText other ++ ")")
  | none => .other details

/-- Does something with a file. A text with a NUL is no name of one. -/
def attempt {α : Type} (name : String) (action : IO α) : IO (Except FileFault α) := do
  if name.toList.contains '\x00' then return .error .nulInName
  try
    return .ok (← action)
  catch error =>
    return .error (fault error)

/-- Whether something is found out about a file. -/
def succeeds (name : String) (action : IO Bool) : IO Bool := do
  match ← attempt name action with
  | .ok answer => return answer
  | .error _ => return false

/-- The files of the system. -/
def disk : Disk IO where
  read name := attempt name (IO.FS.readBinFile name)
  list name := attempt name do
    let location ← IO.FS.realPath name
    let entries ← location.readDir
    return entries.toList.map (·.fileName)
  isDirectory name := succeeds name do
    let location ← IO.FS.realPath name
    location.isDir
  isFile name := succeeds name do
    let location ← IO.FS.realPath name
    return (← location.metadata).type == .file
  makeDirectory name := attempt name (IO.FS.createDir name)
  write name content := attempt name (IO.FS.writeBinFile name content)

/-- The current moment. -/
def now : IO Moment := do
  let stamp ← Std.Time.Timestamp.now
  return .ofSeconds stamp.val.second.val stamp.val.nano.val.toNat

/-- A source of examples that differ from run to run. -/
def source : IO ExampleSource := do
  let bytes ← IO.getRandomBytes 8
  let seed := bytes.toList.foldl (fun number byte => 256 * number + byte.toNat) 0
  return .ofSeed (UInt64.ofNat seed) (← now)

/-- The variables of the environment that matter. -/
def environment : IO Environment := do
  let names := [Settings.outputDirectoryVariable, Settings.maxDepthVariable,
    Settings.logFilterVariable]
  let values ← names.mapM fun name => do return (name, ← IO.getEnv name)
  return fun name => (values.lookup name).join

end ConsumerContract.Program

open ConsumerContract in
/-- Runs the command with the arguments of the command line. -/
def main (arguments : List String) : IO UInt32 := do
  let outcome ←
    runCommand (← Program.source) Program.disk (← Program.environment) arguments
  IO.print outcome.output
  IO.eprint outcome.errors
  return outcome.status.toUInt32
