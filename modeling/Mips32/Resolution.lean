/-
# Resolving labels

The second phase of an assembly: once labels have addresses, distances and
indices become numbers. A branch counts words from its delay slot, the address
after it. A jump stays in the 256 MiB segment of its delay slot.
-/
import Mips32.Instruction
import Mips32.LabelTable

namespace Mips32

/-- The distance in words from the delay slot of a branch at `pc` to `target`.
The distance in bytes is taken around the address space on the shorter side; it
has to be a multiple of four, and the distance in words has to fit 16 bits. -/
def branchOffset (target pc : UInt32) : Except AssemblyError Int :=
  let distance := ((target.toNat : Int) - pc.toNat - 4).bmod 0x100000000
  if distance % 4 ≠ 0 then .error (.outOfRange .branchOffset distance)
  else
    let words := distance / 4
    if -0x8000 ≤ words ∧ words ≤ 0x7FFF then .ok words
    else .error (.outOfRange .branchOffset words)

/-- The number of the 256 MiB segment of an address. -/
def segment (address : UInt32) : Nat :=
  address.toNat / 0x10000000

/-- The word index within the segment for a jump at `pc` to `target`. -/
def jumpIndex (target pc : UInt32) : Except AssemblyError Nat :=
  if segment target ≠ segment (pc + 4) then .error (.jumpOutsideSegment target pc)
  else if target.toNat % 4 ≠ 0 then .error (.jumpMisaligned target)
  else .ok (target.toNat % 0x10000000 / 4)

/-- The number an immediate stands for in an instruction at `pc`. -/
def Immediate.resolve (immediate : Immediate) (pc : UInt32) (labels : LabelTable) :
    Except AssemblyError Int :=
  match immediate with
  | literal value => .ok value
  | branch label => do branchOffset (← labels.address label) pc
  | high label => return ((← labels.address label).toNat / 0x10000 : Nat)
  | low label => return ((← labels.address label).toNat % 0x10000 : Nat)

/-- The index a jump target stands for in an instruction at `pc`. -/
def Target.resolve (target : Target) (pc : UInt32) (labels : LabelTable) :
    Except AssemblyError Nat :=
  match target with
  | index position => .ok position
  | label target => do jumpIndex (← labels.address target) pc

/-- The concrete form of an instruction at `pc`. -/
def Symbolic.resolve (instr : Symbolic) (pc : UInt32) (labels : LabelTable) :
    Except AssemblyError Concrete :=
  match instr with
  | .register opcode rs rt rd shift funct => .ok (.register opcode rs rt rd shift funct)
  | .immediate opcode rs rt value =>
    return .immediate opcode rs rt (← value.resolve pc labels)
  | .jump opcode target => return .jump opcode (← target.resolve pc labels)
  | .trap opcode code funct => .ok (.trap opcode code funct)
  | .float opcode fmt ft fs fd funct => .ok (.float opcode fmt ft fs fd funct)
  | .data word => .ok (.data word)
  | .nop => .ok .nop

end Mips32
