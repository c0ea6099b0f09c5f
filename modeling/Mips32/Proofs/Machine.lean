/-
# A reference machine

The machine that finished words are meant for, as far as expansions need it. It
fetches words from memory, takes them apart by the numbers of the instruction set
manual and works on 32 registers, of which the first is always zero. A branch takes
effect after the instruction in its delay slot, so the machine keeps the addresses
of two instructions. It shares no operation code and no layout with the assembler.
Words that expansions do not use count as reserved.
-/
import Mips32.Register
import Mips32.Proofs.MachineTarget

namespace Mips32

/-- A word as a number in two's complement. -/
def signed (word : UInt32) : Int :=
  (word.toNat : Int).bmod 0x100000000

/-- The contents of the registers. -/
structure Registers where
  value : Reg → UInt32
  value_zero : value .zero = 0

namespace Registers

attribute [simp] value_zero

/-- Writes to a register; the zero register ignores it. -/
def write (registers : Registers) (reg : Reg) (value : UInt32) : Registers where
  value other := if other = reg ∧ other ≠ .zero then value else registers.value other
  value_zero := by simp

end Registers

namespace Machine

/-! ## Decoding -/

/-- An instruction of the machine. -/
inductive Operation
  /-- Add, around the range of a word. -/
  | addu (rd rs rt : Reg)
  /-- Subtract, with a trap if the signed difference is out of range. -/
  | sub (rd rs rt : Reg)
  /-- Subtract, around the range of a word. -/
  | subu (rd rs rt : Reg)
  /-- The bits that neither operand has. -/
  | nor (rd rs rt : Reg)
  /-- One if `rs` is less than `rt`, signed, and zero if not. -/
  | slt (rd rs rt : Reg)
  /-- Branch if two registers are equal. -/
  | beq (rs rt : Reg) (half : UInt32)
  /-- Branch if two registers differ. -/
  | bne (rs rt : Reg) (half : UInt32)
  /-- Add a half word with its sign, around the range of a word. -/
  | addiu (rt rs : Reg) (half : UInt32)
  /-- Set the bits of a half word. -/
  | ori (rt rs : Reg) (half : UInt32)
  /-- Load a half word into the upper half. -/
  | lui (rt : Reg) (half : UInt32)

/-- The operation on three registers with a given function code. -/
def Operation.ofFunct (rd rs rt : Reg) : Nat → Option Operation
  | 0x21 => some (.addu rd rs rt)
  | 0x22 => some (.sub rd rs rt)
  | 0x23 => some (.subu rd rs rt)
  | 0x27 => some (.nor rd rs rt)
  | 0x2A => some (.slt rd rs rt)
  | _ => none

/-- The operation on two registers and a half word with a given opcode. -/
def Operation.ofOpcode (rs rt : Reg) (half : UInt32) : Nat → Option Operation
  | 0x04 => some (.beq rs rt half)
  | 0x05 => some (.bne rs rt half)
  | 0x09 => some (.addiu rt rs half)
  | 0x0D => some (.ori rt rs half)
  | 0x0F => if rs = .zero then some (.lui rt half) else none
  | _ => none

/-- The register whose number stands in the five bits of a word from `weight` on. -/
def regAt (weight : Nat) (word : UInt32) : Reg :=
  ⟨⟨word.toNat / weight % 0x20, Nat.mod_lt _ (by decide)⟩⟩

/-- The operation that a word stands for. The top six bits are the opcode. Under the
opcode zero the low six bits choose the operation, and the five bits above them have
to be zero. -/
def decode (word : UInt32) : Option Operation :=
  let opcode := word.toNat / 0x4000000
  let rs := regAt 0x200000 word
  let rt := regAt 0x10000 word
  if opcode = 0 then
    if word.toNat / 0x40 % 0x20 = 0 then
      Operation.ofFunct (regAt 0x800 word) rs rt (word.toNat % 0x40)
    else none
  else Operation.ofOpcode rs rt (word &&& 0xFFFF) opcode

/-! ## Execution -/

/-- The state of the machine between two instructions. -/
structure State where
  /-- The address of the instruction to execute. -/
  pc : UInt32
  /-- The address of the one after it. -/
  next : UInt32
  registers : Registers

/-- The state in which the machine comes to an address, not from a branch. -/
def State.enter (pc : UInt32) (registers : Registers) : State :=
  ⟨pc, pc + 4, registers⟩

/-- Why the machine stops. -/
inductive Trap
  | overflow
  | reserved

/-- Goes on with the next instruction after writing to a register. -/
def State.set (state : State) (reg : Reg) (value : UInt32) : State :=
  ⟨state.next, state.next + 4, state.registers.write reg value⟩

/-- Goes on with the next instruction, and after it with the target of a branch if
the branch is taken. The half word counts instructions from the delay slot. -/
def State.branch (state : State) (half : UInt32) (taken : Bool) : State :=
  ⟨state.next,
    if taken then state.pc + 4 + 4 * UInt32.ofInt (signExtend16 half) else state.next + 4,
    state.registers⟩

/-- The effect of an operation. -/
def Operation.execute (state : State) : Operation → Except Trap State
  | addu rd rs rt =>
    .ok (state.set rd (state.registers.value rs + state.registers.value rt))
  | sub rd rs rt =>
    let difference := signed (state.registers.value rs) - signed (state.registers.value rt)
    if -0x80000000 ≤ difference ∧ difference ≤ 0x7FFFFFFF then
      .ok (state.set rd (state.registers.value rs - state.registers.value rt))
    else .error .overflow
  | subu rd rs rt =>
    .ok (state.set rd (state.registers.value rs - state.registers.value rt))
  | nor rd rs rt =>
    .ok (state.set rd (~~~(state.registers.value rs ||| state.registers.value rt)))
  | slt rd rs rt =>
    .ok (state.set rd
      (if signed (state.registers.value rs) < signed (state.registers.value rt) then 1 else 0))
  | beq rs rt half =>
    .ok (state.branch half (state.registers.value rs == state.registers.value rt))
  | bne rs rt half =>
    .ok (state.branch half (state.registers.value rs != state.registers.value rt))
  | addiu rt rs half =>
    .ok (state.set rt (state.registers.value rs + UInt32.ofInt (signExtend16 half)))
  | ori rt rs half => .ok (state.set rt (state.registers.value rs ||| half))
  | lui rt half => .ok (state.set rt (half <<< (16 : UInt32)))

/-- Executes the instruction in memory at the address of the state. -/
def step (memory : UInt32 → UInt32) (state : State) : Except Trap State :=
  match decode (memory state.pc) with
  | some operation => operation.execute state
  | none => .error .reserved

/-- Executes a number of instructions. -/
def run (memory : UInt32 → UInt32) : Nat → State → Except Trap State
  | 0, state => .ok state
  | count + 1, state => do run memory count (← step memory state)

end Machine

end Mips32
