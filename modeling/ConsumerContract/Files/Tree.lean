/-
This file holds file trees as values: directories and files by their location,
and a working directory that relative names start from. The operations answer
as a file system does that has no links and no limit on its space, so that a
file that can be opened can be written. Where space is limited is the matter of
devices.
-/

import ConsumerContract.Files.Disk

namespace ConsumerContract

/-- The names of the directories around an entry and its own, from the root on. -/
abbrev FileLocation := List String

/-- A directory or a file. -/
inductive FileEntry where
  | directory
  | file (content : ByteArray)
  deriving Inhabited

/-- Directories and files, each at one location. -/
structure FileTree where
  entries : List (FileLocation × FileEntry)
  workingDirectory : FileLocation
  deriving Inhabited

namespace FileTree

/-- The longest name of an entry in bytes. -/
def longestName : Nat := 255

/-- The longest text that names a file, in bytes. -/
def longestPath : Nat := 4095

/-- The entry at a location. The root is always a directory. -/
def entry? (tree : FileTree) (location : FileLocation) : Option FileEntry :=
  if location = [] then some .directory else tree.entries.lookup location

/-- Puts an entry at a location, in place of one that is there. -/
def set (tree : FileTree) (location : FileLocation) (entry : FileEntry) : FileTree :=
  let others := tree.entries.filter (·.1 ≠ location)
  { tree with entries := others ++ [(location, entry)] }

/-- The location one step further. -/
def step (location : FileLocation) (name : String) : FileLocation :=
  if name = "." then location
  else if name = ".." then location.dropLast
  else location ++ [name]

/-- Whether one may go through a location. -/
def enter (tree : FileTree) (location : FileLocation) : Except FileFault Unit :=
  match tree.entry? location with
  | some .directory => .ok ()
  | some (.file _) => .error .notDirectory
  | none => .error .notFound

/-- The location that names lead to. All of it but the last name has to be there. -/
def walk (tree : FileTree) (location : FileLocation) : List String → Except FileFault FileLocation
  | [] => .ok location
  | name :: rest => do
    tree.enter location
    if longestName < name.utf8ByteSize then .error .nameTooLong
    else tree.walk (step location name) rest

/-- Where a name starts from. -/
def origin (tree : FileTree) (name : String) : FileLocation :=
  if FileName.isAbsolute name then [] else tree.workingDirectory

/-- A text has to be usable as a name before anything is looked up. -/
def checkName (name : String) : Except FileFault Unit :=
  if name.toList.contains '\x00' then .error .nulInName
  else if name = "" then .error .notFound
  else if longestPath < name.utf8ByteSize then .error .nameTooLong
  else .ok ()

/-- The location of a name, whether there is an entry or not. -/
def locate (tree : FileTree) (name : String) : Except FileFault FileLocation := do
  checkName name
  tree.walk (tree.origin name) (FileName.components name)

/-- The entry of a name. -/
def find (tree : FileTree) (name : String) : Except FileFault (FileLocation × FileEntry) := do
  let location ← tree.locate name
  match tree.entry? location with
  | some entry => .ok (location, entry)
  | none => .error .notFound

/-- The bytes of a file. -/
def read (tree : FileTree) (name : String) : Except FileFault ByteArray := do
  match ← tree.find name with
  | (_, .file content) => .ok content
  | (_, .directory) => .error .isDirectory

/-- The names of the entries that lie directly in a location. -/
def children (tree : FileTree) (location : FileLocation) : List String :=
  tree.entries.filterMap fun (other, _) =>
    if other.dropLast = location then other.getLast? else none

/-- The names in a directory. -/
def list (tree : FileTree) (name : String) : Except FileFault (List String) := do
  match ← tree.find name with
  | (location, .directory) => .ok (tree.children location)
  | (_, .file _) => .error .notDirectory

/-- Whether a name leads to a directory. -/
def isDirectory (tree : FileTree) (name : String) : Bool :=
  match tree.find name with
  | .ok (_, .directory) => true
  | _ => false

/-- Whether a name leads to a file. -/
def isFile (tree : FileTree) (name : String) : Bool :=
  match tree.find name with
  | .ok (_, .file _) => true
  | _ => false

/-- A name without the slashes at its end. -/
def withoutSlashes (name : String) : String :=
  String.ofList ((name.toList.reverse.dropWhile (· = '/')).reverse)

/-- The location of a new directory; the root, a point and two points are always taken. -/
def newDirectory (tree : FileTree) (name : String) : Except FileFault FileLocation := do
  checkName name
  let names := FileName.components (withoutSlashes name)
  let location ← tree.walk (tree.origin name) names
  match names.getLast? with
  | none | some "." | some ".." => .error .alreadyExists
  | some _ =>
    match tree.entry? location with
    | some _ => .error .alreadyExists
    | none => .ok location

/-- Makes a directory. -/
def makeDirectory (tree : FileTree) (name : String) : Except FileFault FileTree := do
  let location ← tree.newDirectory name
  return tree.set location .directory

/-- Writes a file; one that is there is replaced. -/
def write (tree : FileTree) (name : String) (content : ByteArray) :
    Except FileFault FileTree := do
  let location ← tree.locate name
  match tree.entry? location with
  | some .directory => .error .isDirectory
  | _ => .ok (tree.set location (.file content))

/-- An operation that changes the tree only where it succeeds. -/
def update (change : FileTree → Except FileFault FileTree) :
    StateM FileTree (Except FileFault Unit) :=
  fun tree =>
    match change tree with
    | .ok changed => (.ok (), changed)
    | .error fault => (.error fault, tree)

/-- The file tree as a disk. -/
def disk : Disk (StateM FileTree) where
  read name := fun tree => (tree.read name, tree)
  list name := fun tree => (tree.list name, tree)
  isDirectory name := fun tree => (tree.isDirectory name, tree)
  isFile name := fun tree => (tree.isFile name, tree)
  makeDirectory name := update (·.makeDirectory name)
  write name content := update (·.write name content)

end FileTree

end ConsumerContract
