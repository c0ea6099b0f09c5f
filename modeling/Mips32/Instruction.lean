/-
# Instructions

One type serves both phases of an assembly. A symbolic instruction may leave its
immediate or its jump target open until a label has an address; a concrete one
holds numbers only and is ready to be packed. Field values are unchecked: an
instruction that does not fit its word is refused when it is packed.
-/
import Mips32.Label

namespace Mips32

/-- An instruction with immediates of type `ι` and jump targets of type `τ`. -/
inductive Instr (ι τ : Type)
  /-- A register instruction. -/
  | register (opcode rs rt rd shift funct : Nat)
  /-- An instruction with a 16-bit immediate. -/
  | immediate (opcode rs rt : Nat) (value : ι)
  /-- A jump within a segment. -/
  | jump (opcode : Nat) (target : τ)
  /-- A trap with a code for the handler. -/
  | trap (opcode code funct : Nat)
  /-- A floating point instruction. -/
  | float (opcode fmt ft fs fd funct : Nat)
  /-- A word of data. -/
  | data (word : UInt32)
  /-- The instruction that does nothing. -/
  | nop
  deriving DecidableEq

/-- An immediate before labels have addresses. -/
inductive Immediate
  /-- A number. -/
  | literal (value : Int)
  /-- The distance in words from the delay slot to a label. -/
  | branch (label : Label)
  /-- The upper half of a label's address. -/
  | high (label : Label)
  /-- The lower half of a label's address. -/
  | low (label : Label)
  deriving DecidableEq

/-- A jump target before labels have addresses. -/
inductive Target
  /-- A word index within the segment, already checked. -/
  | index (index : Nat)
  /-- The address of a label. -/
  | label (label : Label)
  deriving DecidableEq

/-- An instruction that may wait for a label. -/
abbrev Symbolic := Instr Immediate Target

/-- An instruction that is ready to be packed. -/
abbrev Concrete := Instr Int Nat

/-- The label an immediate waits for. -/
def Immediate.label? : Immediate → Option Label
  | literal _ => none
  | branch label | high label | low label => some label

/-- The label a jump target waits for. -/
def Target.label? : Target → Option Label
  | index _ => none
  | label target => some target

/-- The label an instruction waits for. -/
def Symbolic.label? : Symbolic → Option Label
  | .immediate _ _ _ value => value.label?
  | .jump _ target => target.label?
  | _ => none

end Mips32
