/-
# A model of the machine

A world is a file system and a standard output. Several paths may lead to one
file, and a path may lead to a file for writing that does not exist yet. Nothing
is settled about how writing goes wrong: a file may be left with other contents
than before, and of what is printed a part may get through, or even nothing
without an error, since bytes can be lost after they were taken. That a write
happens as a whole or fails and changes nothing is the condition `WritesWhole`.
-/
import Mips32.CommandLine.Run

namespace Mips32.CommandLine

/-- What a path is looked up for. -/
inductive Access
  | reading
  | writing
  deriving DecidableEq

/-- A file system. -/
structure Disk where
  /-- The file a path leads to. -/
  locate : Access → String → Except FileError String
  /-- The contents of the files that exist. -/
  contents : String → Option ByteArray
  /-- What becomes of a file when bytes are written to it, and what is reported. -/
  store : String → ByteArray → Option ByteArray × Except FileError Unit :=
    fun _ bytes => (some bytes, .ok ())

namespace Disk

/-- Reads the file at a path. -/
def read (disk : Disk) (path : String) : Except FileError ByteArray :=
  match disk.locate .reading path with
  | .error error => .error error
  | .ok file =>
    match disk.contents file with
    | none => .error .notFound
    | some bytes => .ok bytes

/-- Writes the file at a path. -/
def write (disk : Disk) (path : String) (bytes : ByteArray) : Except FileError Unit × Disk :=
  match disk.locate .writing path with
  | .error error => (.error error, disk)
  | .ok file =>
    let (contents, result) := disk.store file bytes
    (result, { disk with
      contents := fun other => if other = file then contents else disk.contents other })

end Disk

/-- A file system and a standard output. -/
structure World where
  disk : Disk
  /-- What gets through of the bytes that are printed, and what is reported. -/
  outlet : ByteArray → ByteArray × Except FileError Unit := fun bytes => (bytes, .ok ())
  printed : ByteArray := .empty
  complaints : String := ""

namespace World

/-- The host whose machine is a world. -/
def host : Host (StateM World) where
  read path world := (world.disk.read path, world)
  write path bytes world :=
    let (result, disk) := world.disk.write path bytes
    (result, { world with disk })
  print bytes world :=
    let (passed, result) := world.outlet bytes
    (result, { world with printed := world.printed ++ passed })
  complain text world := ((), { world with complaints := world.complaints ++ text })

end World

end Mips32.CommandLine
