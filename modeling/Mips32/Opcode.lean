/-
# Operation codes

The numbers that select an operation: primary opcodes in the top six bits, function
codes of register instructions in the low six bits, selectors of branches that
compare with zero, and selectors and function codes of the floating point
coprocessor.
-/

namespace Mips32

namespace Opcode

abbrev special : Nat := 0x00
abbrev regimm : Nat := 0x01
abbrev j : Nat := 0x02
abbrev jal : Nat := 0x03
abbrev beq : Nat := 0x04
abbrev bne : Nat := 0x05
abbrev blez : Nat := 0x06
abbrev bgtz : Nat := 0x07
abbrev addi : Nat := 0x08
abbrev addiu : Nat := 0x09
abbrev slti : Nat := 0x0A
abbrev sltiu : Nat := 0x0B
abbrev andi : Nat := 0x0C
abbrev ori : Nat := 0x0D
abbrev xori : Nat := 0x0E
abbrev lui : Nat := 0x0F
abbrev cop1 : Nat := 0x11
abbrev lb : Nat := 0x20
abbrev lh : Nat := 0x21
abbrev lw : Nat := 0x23
abbrev lbu : Nat := 0x24
abbrev lhu : Nat := 0x25
abbrev sb : Nat := 0x28
abbrev sh : Nat := 0x29
abbrev sw : Nat := 0x2B
abbrev lwc1 : Nat := 0x31
abbrev swc1 : Nat := 0x39

end Opcode

namespace Funct

abbrev sll : Nat := 0x00
abbrev srl : Nat := 0x02
abbrev sra : Nat := 0x03
abbrev sllv : Nat := 0x04
abbrev srlv : Nat := 0x06
abbrev srav : Nat := 0x07
abbrev jr : Nat := 0x08
abbrev jalr : Nat := 0x09
abbrev syscall : Nat := 0x0C
abbrev breakpoint : Nat := 0x0D
abbrev mfhi : Nat := 0x10
abbrev mthi : Nat := 0x11
abbrev mflo : Nat := 0x12
abbrev mtlo : Nat := 0x13
abbrev mult : Nat := 0x18
abbrev multu : Nat := 0x19
abbrev div : Nat := 0x1A
abbrev divu : Nat := 0x1B
abbrev add : Nat := 0x20
abbrev addu : Nat := 0x21
abbrev sub : Nat := 0x22
abbrev subu : Nat := 0x23
abbrev and : Nat := 0x24
abbrev or : Nat := 0x25
abbrev xor : Nat := 0x26
abbrev nor : Nat := 0x27
abbrev slt : Nat := 0x2A
abbrev sltu : Nat := 0x2B

end Funct

/-! Selectors of the branches that compare a register with zero. -/
namespace ZeroBranch

abbrev bltz : Nat := 0x00
abbrev bgez : Nat := 0x01
abbrev bltzal : Nat := 0x10
abbrev bgezal : Nat := 0x11

end ZeroBranch

/-! Selectors and function codes of the floating point coprocessor. -/
namespace Cop1

abbrev moveFrom : Nat := 0x00
abbrev moveTo : Nat := 0x04
abbrev branch : Nat := 0x08
abbrev single : Nat := 0x10
abbrev double : Nat := 0x11
abbrev word : Nat := 0x14

abbrev add : Nat := 0x00
abbrev sub : Nat := 0x01
abbrev mul : Nat := 0x02
abbrev div : Nat := 0x03
abbrev sqrt : Nat := 0x04
abbrev abs : Nat := 0x05
abbrev mov : Nat := 0x06
abbrev neg : Nat := 0x07
abbrev toSingle : Nat := 0x20
abbrev toDouble : Nat := 0x21
abbrev toWord : Nat := 0x24
abbrev equal : Nat := 0x32
abbrev less : Nat := 0x3C
abbrev lessEqual : Nat := 0x3E

end Cop1

end Mips32
