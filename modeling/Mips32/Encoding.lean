/-
# Packing instructions into words

A packed word is the row of its fields, most significant first, and the
capacities of the fields of each layout multiply to that of a word. Packing
refuses the first field that does not accept its value. An immediate keeps its 16
low bits, so a negative immediate is stored in two's complement.
-/
import Mips32.AssemblyError
import Mips32.Instruction

namespace Mips32

/-- Appends fields to the bits already packed, most significant field first. -/
def packFields : Nat → List (Field × Int) → Except AssemblyError Nat
  | bits, [] => .ok bits
  | bits, (field, value) :: rest =>
    if field.Accepts value then
      packFields (bits * field.capacity + (value % field.capacity).toNat) rest
    else .error (.outOfRange field value)

namespace Concrete

/-- The fields of an instruction in the order of its layout. Data words and the
instruction that does nothing have none. -/
def fields : Concrete → List (Field × Int)
  | .register opcode rs rt rd shift funct =>
    [(.opcode, opcode), (.rs, rs), (.rt, rt), (.rd, rd), (.shift, shift), (.funct, funct)]
  | .immediate opcode rs rt value =>
    [(.opcode, opcode), (.rs, rs), (.rt, rt), (.immediate, value)]
  | .jump opcode index => [(.opcode, opcode), (.jumpIndex, index)]
  | .trap opcode code funct => [(.opcode, opcode), (.code, code), (.funct, funct)]
  | .float opcode fmt ft fs fd funct =>
    [(.opcode, opcode), (.fmt, fmt), (.ft, ft), (.fs, fs), (.fd, fd), (.funct, funct)]
  | .data _ => []
  | .nop => []

/-- The word of an instruction. -/
def encode : Concrete → Except AssemblyError UInt32
  | .data word => .ok word
  | instr => (packFields 0 instr.fields).map UInt32.ofNat

end Concrete

end Mips32
