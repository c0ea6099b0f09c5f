/-
# Pseudo-instructions

Instructions that the machine does not have and that stand for a short sequence
of those it has. Comparisons go through the temporary register.
-/
import Mips32.InstructionForm

namespace Mips32

/-- A pseudo-instruction whose labels are of type `L`: names before they are
looked up, handles after. -/
inductive Pseudo (L : Type)
  /-- Branch always. -/
  | b (target : L)
  /-- Branch if `rs < rt`, signed. -/
  | blt (rs rt : Reg) (target : L)
  /-- Branch if `rs ≥ rt`, signed. -/
  | bge (rs rt : Reg) (target : L)
  /-- Branch if `rs > rt`, signed. -/
  | bgt (rs rt : Reg) (target : L)
  /-- Branch if `rs ≤ rt`, signed. -/
  | ble (rs rt : Reg) (target : L)
  /-- Negation. -/
  | neg (rd rt : Reg)
  /-- Complement. -/
  | not (rd rs : Reg)
  /-- Copy. -/
  | move (rd rs : Reg)
  /-- Load a 32-bit number. -/
  | la (rd : Reg) (value : UInt32)
  /-- Load the address of a label. -/
  | laLabel (rd : Reg) (target : L)
  /-- Load a number of 16 bits, signed or unsigned. -/
  | li (rd : Reg) (value : Int)
  /-- Set to `rs ≥ rt`, signed. -/
  | sge (rd rs rt : Reg)
  /-- Set to `rs > rt`, signed. -/
  | sgt (rd rs rt : Reg)
  deriving DecidableEq

namespace Pseudo

/-- The label a pseudo-instruction refers to. -/
def label? {L : Type} : Pseudo L → Option L
  | b target | blt _ _ target | bge _ _ target | bgt _ _ target | ble _ _ target
  | laLabel _ target => some target
  | neg .. | not .. | move .. | la .. | li .. | sge .. | sgt .. => none

/-- Replaces the label of a pseudo-instruction. -/
def map {L M : Type} (f : L → M) : Pseudo L → Pseudo M
  | b target => b (f target)
  | blt rs rt target => blt rs rt (f target)
  | bge rs rt target => bge rs rt (f target)
  | bgt rs rt target => bgt rs rt (f target)
  | ble rs rt target => ble rs rt (f target)
  | neg rd rt => neg rd rt
  | not rd rs => not rd rs
  | move rd rs => move rd rs
  | la rd value => la rd value
  | laLabel rd target => laLabel rd (f target)
  | li rd value => li rd value
  | sge rd rs rt => sge rd rs rt
  | sgt rd rs rt => sgt rd rs rt

/-- Loads a number: a negative one is sign extended, any other zero
extended. -/
def loadImmediate (rd : Reg) (value : Int) : Symbolic :=
  if value < 0 then .literal Opcode.addiu Reg.zero.id rd.id value
  else .literal Opcode.ori Reg.zero.id rd.id value

/-- The instructions of a pseudo-instruction. -/
def expand : Pseudo Label → List Symbolic
  | b target => [.branch Opcode.beq Reg.zero.id Reg.zero.id target]
  | blt rs rt target =>
    [.special Funct.slt .temporary rs rt 0,
      .branch Opcode.bne Reg.temporary.id Reg.zero.id target]
  | bge rs rt target =>
    [.special Funct.slt .temporary rs rt 0,
      .branch Opcode.beq Reg.temporary.id Reg.zero.id target]
  | bgt rs rt target =>
    [.special Funct.slt .temporary rt rs 0,
      .branch Opcode.bne Reg.temporary.id Reg.zero.id target]
  | ble rs rt target =>
    [.special Funct.slt .temporary rt rs 0,
      .branch Opcode.beq Reg.temporary.id Reg.zero.id target]
  | neg rd rt => [.special Funct.sub rd .zero rt 0]
  | not rd rs => [.special Funct.nor rd rs .zero 0]
  | move rd rs => [.special Funct.addu rd rs .zero 0]
  | la rd value =>
    [.literal Opcode.lui 0 rd.id (value.toNat / 0x10000 : Nat),
      .literal Opcode.ori rd.id rd.id (value.toNat % 0x10000 : Nat)]
  | laLabel rd target =>
    [.immediate Opcode.lui 0 rd.id (.high target),
      .immediate Opcode.ori rd.id rd.id (.low target)]
  | li rd value => [loadImmediate rd value]
  | sge rd rs rt =>
    [.special Funct.slt rd rs rt 0,
      loadImmediate .temporary 1,
      .special Funct.subu rd .temporary rd 0]
  | sgt rd rs rt => [.special Funct.slt rd rt rs 0]

end Pseudo

end Mips32
