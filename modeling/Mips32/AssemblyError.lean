/-
# What can go wrong in an assembly

Each error is a cause that lies in the program being assembled; none of them
goes away by trying again.
-/
import Mips32.Field
import Mips32.Label
import Mips32.Text.Numeral

namespace Mips32

/-- The causes for which an assembly is refused. -/
inductive AssemblyError
  /-- A value does not fit its field. -/
  | outOfRange (field : Field) (value : Int)
  /-- A label is used but was never placed. -/
  | labelUnplaced (label : Label)
  /-- A label is placed a second time. -/
  | labelPlacedTwice (label : Label) (address : UInt32)
  /-- An address does not fit in 32 bits. -/
  | addressOutOfRange (address : Int)
  /-- A jump leaves the segment of its delay slot. -/
  | jumpOutsideSegment (target pc : UInt32)
  /-- A jump goes to an address that is no multiple of four. -/
  | jumpMisaligned (target : UInt32)
  /-- A label was never created in this table. -/
  | labelForeign (label : Label)
  deriving DecidableEq

/-- The wording of an error. -/
def AssemblyError.message : AssemblyError → String
  | outOfRange field value =>
    field.name ++ " value is too big: " ++ Text.hexValue value
  | labelUnplaced label =>
    "label " ++ label.written ++ " was not assigned"
  | labelPlacedTwice label address =>
    "label " ++ label.written ++ " was already assigned to " ++
      String.ofList (Text.hexAddress address)
  | addressOutOfRange address =>
    "label address " ++ Text.hexValue address ++ " is out of range"
  | jumpOutsideSegment target pc =>
    "can't encode jump to " ++ String.ofList (Text.hexAddress target) ++ " from " ++
      String.ofList (Text.hexAddress pc) ++
      ": target is outside the current 256 MiB segment"
  | jumpMisaligned target =>
    "can't encode jump to " ++ String.ofList (Text.hexAddress target) ++
      ": target is not word aligned"
  | labelForeign label =>
    "label " ++ label.written ++ " does not belong to this assembler"

end Mips32
