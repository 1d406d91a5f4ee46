/-
This file holds file trees on devices that have room for so many more bytes. A file is
opened before it is written, which empties one that is there. Where the room runs out the
write is refused, and what has been written up to there stays.
-/

import ConsumerContract.Files.Tree

namespace ConsumerContract

/-- A file tree, and the number of bytes that there is room for besides. -/
structure Device where
  tree : FileTree
  room : Nat
  deriving Inhabited

namespace Device

/-- The refusal where the room has run out. -/
def noRoom : FileFault :=
  .other "No space left on device (os error 28)"

/-- The number of bytes that a file can have; those of a file that is there are free again. -/
def available (device : Device) (name : String) : Nat :=
  match device.tree.read name with
  | .ok content => device.room + content.size
  | .error _ => device.room

/-- Writes a file as far as there is room. -/
def write (device : Device) (name : String) (content : ByteArray) :
    Except FileFault Unit × Device :=
  let available := device.available name
  match device.tree.write name (content.extract 0 available) with
  | .error fault => (.error fault, device)
  | .ok tree =>
    if content.size ≤ available then (.ok (), ⟨tree, available - content.size⟩)
    else (.error noRoom, ⟨tree, 0⟩)

/-- Makes a directory, which takes no room. -/
def makeDirectory (device : Device) (name : String) : Except FileFault Unit × Device :=
  match device.tree.makeDirectory name with
  | .error fault => (.error fault, device)
  | .ok tree => (.ok (), { device with tree })

/-- The device as a disk. -/
def disk : Disk (StateM Device) where
  read name := fun device => (device.tree.read name, device)
  list name := fun device => (device.tree.list name, device)
  isDirectory name := fun device => (device.tree.isDirectory name, device)
  isFile name := fun device => (device.tree.isFile name, device)
  makeDirectory name := fun device => device.makeDirectory name
  write name content := fun device => device.write name content

end Device

end ConsumerContract
