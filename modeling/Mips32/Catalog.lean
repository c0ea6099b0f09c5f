/-
# The catalog of mnemonics

Every mnemonic has an operand shape and up to three numbers that fill the fields
its operands leave open. `Entry.instruction` matches an operand list with the
shape of an entry and gives the one instruction it stands for.
-/
import Mips32.InstructionForm

namespace Mips32

/-- The operands a mnemonic takes and the fields they fill. -/
inductive Shape
  /-- A destination and two sources. -/
  | threeRegs
  /-- A destination, the shifted register and the register with the amount. -/
  | shiftByReg
  /-- A destination, the shifted register and the amount. -/
  | shiftByAmount
  /-- Two sources; the result goes to the multiply unit. -/
  | twoSources
  /-- A destination. -/
  | destination
  /-- A source. -/
  | source
  /-- The link register, which may be left out, and a source. -/
  | link
  /-- A destination, a source and an immediate. -/
  | immediate
  /-- A destination and an immediate. -/
  | upperImmediate
  /-- A register and a memory operand. -/
  | memory
  /-- A floating point register and a memory operand. -/
  | floatMemory
  /-- Two compared registers and a label. -/
  | branch
  /-- A register compared with zero and a label; the selector fills `rt`. -/
  | zeroBranch
  /-- A label; the selector is the condition. -/
  | floatBranch
  /-- An address or a label. -/
  | jump
  /-- A code, which may be left out. -/
  | trap
  /-- A destination and two sources; the selector is the format. -/
  | floatBinary
  /-- A destination and a source; the selector is the format. -/
  | floatUnary
  /-- Two compared registers; the selector is the format. -/
  | floatCompare
  /-- A general purpose and a floating point register; the selector is the
  direction. -/
  | floatMove
  /-- No operands. -/
  | bare
  deriving DecidableEq

/-- The operands of a shape as messages show them. -/
def Shape.operandText : Shape → String
  | threeRegs => "rd, rs, rt"
  | shiftByReg => "rd, rt, rs"
  | shiftByAmount => "rd, rt, sa"
  | twoSources => "rs, rt"
  | destination => "rd"
  | source => "rs"
  | link => "rd, rs"
  | immediate => "rt, rs, imm"
  | upperImmediate => "rt, imm"
  | memory => "rt, offset(base)"
  | floatMemory => "ft, offset(base)"
  | branch => "rs, rt, label"
  | zeroBranch => "rs, label"
  | floatBranch => "label"
  | jump => "address|label"
  | trap => "[code]"
  | floatBinary => "fd, fs, ft"
  | floatUnary => "fd, fs"
  | floatCompare => "fs, ft"
  | floatMove => "rt, fs"
  | bare => ""

/-- A mnemonic with its shape and its numbers. -/
structure Entry where
  mnemonic : String
  shape : Shape
  opcode : Nat
  funct : Nat
  selector : Nat
  deriving DecidableEq

/-- An operand that was read. Labels are of type `L`: names before they are
looked up, handles after. -/
inductive Operand (L : Type)
  | reg (reg : Reg)
  | freg (reg : FReg)
  | number (value : Int)
  | memory (offset : Int) (base : Reg)
  | label (label : L)
  deriving DecidableEq

/-- The label an operand refers to. -/
def Operand.label? {L : Type} : Operand L → Option L
  | label target => some target
  | reg _ | freg _ | number _ | memory .. => none

/-- Replaces the label of an operand. -/
def Operand.map {L M : Type} (f : L → M) : Operand L → Operand M
  | reg r => reg r
  | freg r => freg r
  | number value => number value
  | memory offset base => memory offset base
  | label l => label (f l)

/-- The causes for which a catalog entry refuses its operands. -/
inductive EmissionError
  /-- The operands do not have the shape of the mnemonic. -/
  | operands (mnemonic operandText : String)
  /-- A number does not fit in 32 bits. -/
  | number (mnemonic : String) (value : Int)
  /-- The instruction itself is refused. -/
  | assembly (error : AssemblyError)
  deriving DecidableEq

/-- The wording of an error. -/
def EmissionError.message : EmissionError → String
  | operands mnemonic operandText =>
    mnemonic ++ ": expected operands `" ++ operandText ++ "`"
  | number mnemonic value =>
    mnemonic ++ ": immediate " ++ Text.hexValue value ++ " does not fit in 32 bits"
  | assembly error => error.message

namespace Entry

/-- The mnemonics of the machine. -/
def table : List Entry :=
  [⟨"add", .threeRegs, Opcode.special, Funct.add, 0⟩,
    ⟨"addu", .threeRegs, Opcode.special, Funct.addu, 0⟩,
    ⟨"and", .threeRegs, Opcode.special, Funct.and, 0⟩,
    ⟨"nor", .threeRegs, Opcode.special, Funct.nor, 0⟩,
    ⟨"or", .threeRegs, Opcode.special, Funct.or, 0⟩,
    ⟨"slt", .threeRegs, Opcode.special, Funct.slt, 0⟩,
    ⟨"sltu", .threeRegs, Opcode.special, Funct.sltu, 0⟩,
    ⟨"sub", .threeRegs, Opcode.special, Funct.sub, 0⟩,
    ⟨"subu", .threeRegs, Opcode.special, Funct.subu, 0⟩,
    ⟨"xor", .threeRegs, Opcode.special, Funct.xor, 0⟩,
    ⟨"sllv", .shiftByReg, Opcode.special, Funct.sllv, 0⟩,
    ⟨"srlv", .shiftByReg, Opcode.special, Funct.srlv, 0⟩,
    ⟨"srav", .shiftByReg, Opcode.special, Funct.srav, 0⟩,
    ⟨"sll", .shiftByAmount, Opcode.special, Funct.sll, 0⟩,
    ⟨"srl", .shiftByAmount, Opcode.special, Funct.srl, 0⟩,
    ⟨"sra", .shiftByAmount, Opcode.special, Funct.sra, 0⟩,
    ⟨"mult", .twoSources, Opcode.special, Funct.mult, 0⟩,
    ⟨"multu", .twoSources, Opcode.special, Funct.multu, 0⟩,
    ⟨"div", .twoSources, Opcode.special, Funct.div, 0⟩,
    ⟨"divu", .twoSources, Opcode.special, Funct.divu, 0⟩,
    ⟨"mfhi", .destination, Opcode.special, Funct.mfhi, 0⟩,
    ⟨"mflo", .destination, Opcode.special, Funct.mflo, 0⟩,
    ⟨"mthi", .source, Opcode.special, Funct.mthi, 0⟩,
    ⟨"mtlo", .source, Opcode.special, Funct.mtlo, 0⟩,
    ⟨"jr", .source, Opcode.special, Funct.jr, 0⟩,
    ⟨"jalr", .link, Opcode.special, Funct.jalr, 0⟩,
    ⟨"syscall", .trap, Opcode.special, Funct.syscall, 0⟩,
    ⟨"break", .trap, Opcode.special, Funct.breakpoint, 0⟩,
    ⟨"addi", .immediate, Opcode.addi, 0, 0⟩,
    ⟨"addiu", .immediate, Opcode.addiu, 0, 0⟩,
    ⟨"andi", .immediate, Opcode.andi, 0, 0⟩,
    ⟨"ori", .immediate, Opcode.ori, 0, 0⟩,
    ⟨"slti", .immediate, Opcode.slti, 0, 0⟩,
    ⟨"sltiu", .immediate, Opcode.sltiu, 0, 0⟩,
    ⟨"xori", .immediate, Opcode.xori, 0, 0⟩,
    ⟨"lui", .upperImmediate, Opcode.lui, 0, 0⟩,
    ⟨"lb", .memory, Opcode.lb, 0, 0⟩,
    ⟨"lbu", .memory, Opcode.lbu, 0, 0⟩,
    ⟨"lh", .memory, Opcode.lh, 0, 0⟩,
    ⟨"lhu", .memory, Opcode.lhu, 0, 0⟩,
    ⟨"lw", .memory, Opcode.lw, 0, 0⟩,
    ⟨"sb", .memory, Opcode.sb, 0, 0⟩,
    ⟨"sh", .memory, Opcode.sh, 0, 0⟩,
    ⟨"sw", .memory, Opcode.sw, 0, 0⟩,
    ⟨"lwc1", .floatMemory, Opcode.lwc1, 0, 0⟩,
    ⟨"swc1", .floatMemory, Opcode.swc1, 0, 0⟩,
    ⟨"beq", .branch, Opcode.beq, 0, 0⟩,
    ⟨"bne", .branch, Opcode.bne, 0, 0⟩,
    ⟨"blez", .zeroBranch, Opcode.blez, 0, 0⟩,
    ⟨"bgtz", .zeroBranch, Opcode.bgtz, 0, 0⟩,
    ⟨"bltz", .zeroBranch, Opcode.regimm, 0, ZeroBranch.bltz⟩,
    ⟨"bgez", .zeroBranch, Opcode.regimm, 0, ZeroBranch.bgez⟩,
    ⟨"bltzal", .zeroBranch, Opcode.regimm, 0, ZeroBranch.bltzal⟩,
    ⟨"bgezal", .zeroBranch, Opcode.regimm, 0, ZeroBranch.bgezal⟩,
    ⟨"bc1f", .floatBranch, Opcode.cop1, 0, 0⟩,
    ⟨"bc1t", .floatBranch, Opcode.cop1, 0, 1⟩,
    ⟨"j", .jump, Opcode.j, 0, 0⟩,
    ⟨"jal", .jump, Opcode.jal, 0, 0⟩,
    ⟨"add.s", .floatBinary, Opcode.cop1, Cop1.add, Cop1.single⟩,
    ⟨"add.d", .floatBinary, Opcode.cop1, Cop1.add, Cop1.double⟩,
    ⟨"sub.s", .floatBinary, Opcode.cop1, Cop1.sub, Cop1.single⟩,
    ⟨"sub.d", .floatBinary, Opcode.cop1, Cop1.sub, Cop1.double⟩,
    ⟨"mul.s", .floatBinary, Opcode.cop1, Cop1.mul, Cop1.single⟩,
    ⟨"mul.d", .floatBinary, Opcode.cop1, Cop1.mul, Cop1.double⟩,
    ⟨"div.s", .floatBinary, Opcode.cop1, Cop1.div, Cop1.single⟩,
    ⟨"div.d", .floatBinary, Opcode.cop1, Cop1.div, Cop1.double⟩,
    ⟨"sqrt.s", .floatUnary, Opcode.cop1, Cop1.sqrt, Cop1.single⟩,
    ⟨"sqrt.d", .floatUnary, Opcode.cop1, Cop1.sqrt, Cop1.double⟩,
    ⟨"abs.s", .floatUnary, Opcode.cop1, Cop1.abs, Cop1.single⟩,
    ⟨"abs.d", .floatUnary, Opcode.cop1, Cop1.abs, Cop1.double⟩,
    ⟨"mov.s", .floatUnary, Opcode.cop1, Cop1.mov, Cop1.single⟩,
    ⟨"mov.d", .floatUnary, Opcode.cop1, Cop1.mov, Cop1.double⟩,
    ⟨"neg.s", .floatUnary, Opcode.cop1, Cop1.neg, Cop1.single⟩,
    ⟨"neg.d", .floatUnary, Opcode.cop1, Cop1.neg, Cop1.double⟩,
    ⟨"cvt.s.d", .floatUnary, Opcode.cop1, Cop1.toSingle, Cop1.double⟩,
    ⟨"cvt.s.w", .floatUnary, Opcode.cop1, Cop1.toSingle, Cop1.word⟩,
    ⟨"cvt.d.s", .floatUnary, Opcode.cop1, Cop1.toDouble, Cop1.single⟩,
    ⟨"cvt.d.w", .floatUnary, Opcode.cop1, Cop1.toDouble, Cop1.word⟩,
    ⟨"cvt.w.s", .floatUnary, Opcode.cop1, Cop1.toWord, Cop1.single⟩,
    ⟨"cvt.w.d", .floatUnary, Opcode.cop1, Cop1.toWord, Cop1.double⟩,
    ⟨"c.eq.s", .floatCompare, Opcode.cop1, Cop1.equal, Cop1.single⟩,
    ⟨"c.eq.d", .floatCompare, Opcode.cop1, Cop1.equal, Cop1.double⟩,
    ⟨"c.lt.s", .floatCompare, Opcode.cop1, Cop1.less, Cop1.single⟩,
    ⟨"c.lt.d", .floatCompare, Opcode.cop1, Cop1.less, Cop1.double⟩,
    ⟨"c.le.s", .floatCompare, Opcode.cop1, Cop1.lessEqual, Cop1.single⟩,
    ⟨"c.le.d", .floatCompare, Opcode.cop1, Cop1.lessEqual, Cop1.double⟩,
    ⟨"mfc1", .floatMove, Opcode.cop1, 0, Cop1.moveFrom⟩,
    ⟨"mtc1", .floatMove, Opcode.cop1, 0, Cop1.moveTo⟩,
    ⟨"nop", .bare, Opcode.special, 0, 0⟩]

/-- The entry of a mnemonic, in which ASCII case does not matter. -/
def find? (mnemonic : String) : Option Entry :=
  let wanted := mnemonic.toList.map Char.toLower
  table.find? fun entry => entry.mnemonic.toList = wanted

/-- The refusal of operands that do not have the shape of the entry. -/
def mismatch (entry : Entry) : EmissionError :=
  .operands entry.mnemonic entry.shape.operandText

/-- A number used as a signed immediate. -/
def signed (entry : Entry) (value : Int) : Except EmissionError Int :=
  if IsSigned32 value then .ok value else .error (.number entry.mnemonic value)

/-- The instruction of an entry with its operands, at the address `pc`. -/
def instruction (entry : Entry) (pc : UInt32) (operands : List (Operand Label)) :
    Except EmissionError Symbolic :=
  match entry.shape with
  | .threeRegs =>
    match operands with
    | [.reg rd, .reg rs, .reg rt] => .ok (.special entry.funct rd rs rt 0)
    | _ => .error entry.mismatch
  | .shiftByReg =>
    match operands with
    | [.reg rd, .reg rt, .reg rs] => .ok (.special entry.funct rd rs rt 0)
    | _ => .error entry.mismatch
  | .shiftByAmount =>
    match operands with
    | [.reg rd, .reg rt, .number amount] =>
      if IsUnsigned32 amount then .ok (.special entry.funct rd .zero rt amount.toNat)
      else .error entry.mismatch
    | _ => .error entry.mismatch
  | .twoSources =>
    match operands with
    | [.reg rs, .reg rt] => .ok (.special entry.funct .zero rs rt 0)
    | _ => .error entry.mismatch
  | .destination =>
    match operands with
    | [.reg rd] => .ok (.special entry.funct rd .zero .zero 0)
    | _ => .error entry.mismatch
  | .source =>
    match operands with
    | [.reg rs] => .ok (.special entry.funct .zero rs .zero 0)
    | _ => .error entry.mismatch
  | .link =>
    match operands with
    | [.reg rs] => .ok (.special entry.funct .ra rs .zero 0)
    | [.reg rd, .reg rs] => .ok (.special entry.funct rd rs .zero 0)
    | _ => .error entry.mismatch
  | .immediate =>
    match operands with
    | [.reg rt, .reg rs, .number value] =>
      return .literal entry.opcode rs.id rt.id (← entry.signed value)
    | _ => .error entry.mismatch
  | .upperImmediate =>
    match operands with
    | [.reg rt, .number value] =>
      return .literal entry.opcode 0 rt.id (← entry.signed value)
    | _ => .error entry.mismatch
  | .memory =>
    match operands with
    | [.reg rt, .memory offset base] =>
      return .literal entry.opcode base.id rt.id (← entry.signed offset)
    | _ => .error entry.mismatch
  | .floatMemory =>
    match operands with
    | [.freg ft, .memory offset base] =>
      return .literal entry.opcode base.id ft.id (← entry.signed offset)
    | _ => .error entry.mismatch
  | .branch =>
    match operands with
    | [.reg rs, .reg rt, .label label] => .ok (.branch entry.opcode rs.id rt.id label)
    | _ => .error entry.mismatch
  | .zeroBranch =>
    match operands with
    | [.reg rs, .label label] => .ok (.branch entry.opcode rs.id entry.selector label)
    | _ => .error entry.mismatch
  | .floatBranch =>
    match operands with
    | [.label label] => .ok (.branch entry.opcode Cop1.branch entry.selector label)
    | _ => .error entry.mismatch
  | .jump =>
    match operands with
    | [.number address] =>
      if IsUnsigned32 address then
        (Symbolic.jumpToAddress entry.opcode (UInt32.ofNat address.toNat) pc).mapError
          .assembly
      else .error (.number entry.mnemonic address)
    | [.label label] => .ok (.jumpToLabel entry.opcode label)
    | _ => .error entry.mismatch
  | .trap =>
    match operands with
    | [] => .ok (.specialTrap entry.funct 0)
    | [.number code] =>
      if IsUnsigned32 code then .ok (.specialTrap entry.funct code.toNat)
      else .error entry.mismatch
    | _ => .error entry.mismatch
  | .floatBinary =>
    match operands with
    | [.freg fd, .freg fs, .freg ft] => .ok (.floatOp entry.selector entry.funct fd fs ft)
    | _ => .error entry.mismatch
  | .floatUnary =>
    match operands with
    | [.freg fd, .freg fs] => .ok (.floatOp entry.selector entry.funct fd fs .zero)
    | _ => .error entry.mismatch
  | .floatCompare =>
    match operands with
    | [.freg fs, .freg ft] => .ok (.floatOp entry.selector entry.funct .zero fs ft)
    | _ => .error entry.mismatch
  | .floatMove =>
    match operands with
    | [.reg rt, .freg fs] => .ok (.floatMove entry.selector rt fs)
    | _ => .error entry.mismatch
  | .bare =>
    match operands with
    | [] => .ok .nop
    | _ => .error entry.mismatch

end Entry

end Mips32
