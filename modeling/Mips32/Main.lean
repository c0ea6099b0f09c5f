/-
# The assembler as a program

The host of the machine the program runs on, and the entry point.
-/
import Mips32.CommandLine.Run

namespace Mips32.CommandLine

/-- The cause of a failed file operation. -/
def fileErrorOf : IO.Error → FileError
  | .noFileOrDirectory .. | .noSuchThing .. => .notFound
  | .permissionDenied .. => .permissionDenied
  | .inappropriateType _ code _ => if code = 20 then .notDirectory else .isDirectory
  | .invalidArgument _ 36 _ => .nameTooLong
  | error => .other error.toString

/-- Runs a file operation and keeps its failure. -/
def attempting {α : Type} (action : IO α) : IO (Except FileError α) :=
  try
    return .ok (← action)
  catch error => return .error (fileErrorOf error)

/-- The host of the machine. -/
def machine : Host IO where
  read path := attempting (IO.FS.readBinFile path)
  write path bytes := attempting (IO.FS.writeBinFile path bytes)
  print bytes := attempting do
    let out ← IO.getStdout
    out.write bytes
    out.flush
  complain text := do
    let err ← IO.getStderr
    err.putStr text

end Mips32.CommandLine

/-- Runs the command line on the machine. -/
def main (arguments : List String) : IO UInt32 :=
  Mips32.CommandLine.run Mips32.CommandLine.machine arguments
