/-
This file holds what the library asks of files. A disk is a record of operations
in some monad, so that the same definitions run on real files and on a file tree
that is a value. Names of files are the texts that the user gave.
-/

import ConsumerContract.Files.FileName

namespace ConsumerContract

/-- Why an operation on a file was refused. -/
inductive FileFault where
  | notFound
  | alreadyExists
  | notDirectory
  | isDirectory
  | nameTooLong
  | nulInName
  | notText
  /-- Any other refusal, in the words of the system. -/
  | other (message : String)
  deriving DecidableEq, Repr, Inhabited

/-- The wording of a refusal. -/
def FileFault.message : FileFault → String
  | notFound => "No such file or directory (os error 2)"
  | alreadyExists => "File exists (os error 17)"
  | notDirectory => "Not a directory (os error 20)"
  | isDirectory => "Is a directory (os error 21)"
  | nameTooLong => "File name too long (os error 36)"
  | nulInName => "file name contained an unexpected NUL byte"
  | notText => "stream did not contain valid UTF-8"
  | other message => message

/-- The operations on files. -/
structure Disk (m : Type → Type) where
  /-- The bytes of a file. -/
  read : String → m (Except FileFault ByteArray)
  /-- The names in a directory, in any order. -/
  list : String → m (Except FileFault (List String))
  isDirectory : String → m Bool
  isFile : String → m Bool
  /-- Makes one directory, in one that is there. -/
  makeDirectory : String → m (Except FileFault Unit)
  /-- Writes a whole file, in a directory that is there. -/
  write : String → ByteArray → m (Except FileFault Unit)

namespace Disk

variable {m : Type → Type} [Monad m]

/-- The text of a file. -/
def readText (disk : Disk m) (name : String) : m (Except FileFault String) := do
  match ← disk.read name with
  | .error fault => return .error fault
  | .ok bytes =>
    match String.fromUTF8? bytes with
    | some text => return .ok text
    | none => return .error .notText

/-- A refusal does not matter where the directory is there already. -/
def unlessDirectory (disk : Disk m) (name : String) (fault : FileFault) :
    m (Except FileFault Unit) := do
  if ← disk.isDirectory name then return .ok () else return .error fault

/-- Makes the first of some directories, each of which lies in the next. -/
def makeLineage (disk : Disk m) : List String → m (Except FileFault Unit)
  | [] => return .error (.other "failed to create whole tree")
  | name :: outer => do
    if name = "" then return .ok ()
    match ← disk.makeDirectory name with
    | .ok () => return .ok ()
    | .error .notFound =>
      match ← makeLineage disk outer with
      | .error fault => return .error fault
      | .ok () =>
        match ← disk.makeDirectory name with
        | .ok () => return .ok ()
        | .error fault => unlessDirectory disk name fault
    | .error fault => unlessDirectory disk name fault

/-- Makes a directory and those it lies in, as far as they are missing. -/
def makeDirectories (disk : Disk m) (name : String) : m (Except FileFault Unit) :=
  disk.makeLineage (FileName.lineage name)

end Disk

end ConsumerContract
