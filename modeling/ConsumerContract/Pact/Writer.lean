/-
This file writes contracts into a directory, which is made if it is missing. The
file of a contract is named for its consumer and its provider.
-/

import ConsumerContract.Files.Disk
import ConsumerContract.Pact.Basic

namespace ConsumerContract

/-- A file or a directory that was refused. -/
structure FileRefusal where
  name : String
  fault : FileFault
  deriving DecidableEq, Repr, Inhabited

/-- The wording of a refusal. -/
def FileRefusal.message (refusal : FileRefusal) : String :=
  "Failed to write pact contract to " ++ refusal.name ++ ": " ++ refusal.fault.message

variable {m : Type → Type} [Monad m]

/-- Writes the contract and answers with the name of its file. -/
def Document.writeTo (document : Document) (disk : Disk m) (directory : String) :
    m (Except FileRefusal String) := do
  match ← disk.makeDirectories directory with
  | .error fault => return .error ⟨directory, fault⟩
  | .ok () =>
    let name := FileName.join directory document.fileName
    match ← disk.write name document.toJson.pretty.toUTF8 with
    | .error fault => return .error ⟨name, fault⟩
    | .ok () => return .ok name

/-- Why a pact was not written. -/
inductive WriteError where
  | encoding (failures : List InteractionFailure)
  | refused (refusal : FileRefusal)
  deriving DecidableEq, Repr, Inhabited

/-- The wording of the error. -/
def WriteError.message : WriteError → String
  | encoding failures => InteractionFailure.summaries failures
  | refused refusal => refusal.message

/-- Writes the contract of a pact, if all of it could be encoded. -/
def Pact.writeTo (pact : Pact) (disk : Disk m) (directory : String) :
    m (Except WriteError String) := do
  match pact.document with
  | .error failures => return .error (.encoding failures)
  | .ok document =>
    match ← document.writeTo disk directory with
    | .ok name => return .ok name
    | .error refusal => return .error (.refused refusal)

end ConsumerContract
