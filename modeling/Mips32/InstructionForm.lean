/-
# Common forms of instructions

Most mnemonics share a few forms that differ in their operation codes only. A
jump to a literal address is the one form that depends on where it stands, and
the one that can be refused.
-/
import Mips32.Opcode
import Mips32.Register
import Mips32.Resolution

namespace Mips32.Symbolic

/-- A register instruction of the primary opcode `special`. -/
def special (funct : Nat) (rd rs rt : Reg) (shift : Nat) : Symbolic :=
  .register Opcode.special rs.id rt.id rd.id shift funct

/-- An instruction with a literal immediate. -/
def literal (opcode rs rt : Nat) (value : Int) : Symbolic :=
  .immediate opcode rs rt (.literal value)

/-- A branch to a label. -/
def branch (opcode rs rt : Nat) (label : Label) : Symbolic :=
  .immediate opcode rs rt (.branch label)

/-- A jump at `pc` to a literal address. -/
def jumpToAddress (opcode : Nat) (address pc : UInt32) : Except AssemblyError Symbolic := do
  return .jump opcode (.index (← jumpIndex address pc))

/-- A jump to a label. -/
def jumpToLabel (opcode : Nat) (label : Label) : Symbolic :=
  .jump opcode (.label label)

/-- A trap with a code for the handler. -/
def specialTrap (funct code : Nat) : Symbolic :=
  .trap Opcode.special code funct

/-- A floating point operation on operands of the format `fmt`. -/
def floatOp (fmt funct : Nat) (fd fs ft : FReg) : Symbolic :=
  .float Opcode.cop1 fmt ft.id fs.id fd.id funct

/-- A move between a general purpose and a floating point register. -/
def floatMove (direction : Nat) (rt : Reg) (fs : FReg) : Symbolic :=
  .float Opcode.cop1 direction rt.id fs.id 0 0

end Mips32.Symbolic
