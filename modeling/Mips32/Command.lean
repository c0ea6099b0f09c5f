/-
# Commands

A command asks for one machine instruction by name, with operands in assembly
order: the destination first, then the sources; loads and stores take the
register, the offset and the base. Only a jump to a literal address depends on
where it stands and can be refused.
-/
import Mips32.InstructionForm

namespace Mips32

/-- A machine instruction asked for by name. -/
inductive Command
  | add (rd rs rt : Reg)
  | addi (rt rs : Reg) (value : Int)
  | addiu (rt rs : Reg) (value : Int)
  | addu (rd rs rt : Reg)
  | and (rd rs rt : Reg)
  | andi (rt rs : Reg) (value : Int)
  | beq (rs rt : Reg) (target : Label)
  | bne (rs rt : Reg) (target : Label)
  | bgez (rs : Reg) (target : Label)
  | bgezal (rs : Reg) (target : Label)
  | bltz (rs : Reg) (target : Label)
  | bltzal (rs : Reg) (target : Label)
  | blez (rs : Reg) (target : Label)
  | bgtz (rs : Reg) (target : Label)
  | div (rs rt : Reg)
  | divu (rs rt : Reg)
  | j (address : UInt32)
  | jal (address : UInt32)
  | jLabel (target : Label)
  | jalLabel (target : Label)
  | jr (rs : Reg)
  | jalr (rd rs : Reg)
  | lb (rt : Reg) (offset : Int) (base : Reg)
  | lbu (rt : Reg) (offset : Int) (base : Reg)
  | lh (rt : Reg) (offset : Int) (base : Reg)
  | lhu (rt : Reg) (offset : Int) (base : Reg)
  | lui (rt : Reg) (value : Int)
  | lw (rt : Reg) (offset : Int) (base : Reg)
  | mfhi (rd : Reg)
  | mflo (rd : Reg)
  | mthi (rs : Reg)
  | mtlo (rs : Reg)
  | mult (rs rt : Reg)
  | multu (rs rt : Reg)
  | nop
  | nor (rd rs rt : Reg)
  | or (rd rs rt : Reg)
  | ori (rt rs : Reg) (value : Int)
  | sb (rt : Reg) (offset : Int) (base : Reg)
  | sh (rt : Reg) (offset : Int) (base : Reg)
  | sll (rd rt : Reg) (amount : Nat)
  | sllv (rd rt rs : Reg)
  | slt (rd rs rt : Reg)
  | slti (rt rs : Reg) (value : Int)
  | sltiu (rt rs : Reg) (value : Int)
  | sltu (rd rs rt : Reg)
  | sra (rd rt : Reg) (amount : Nat)
  | srav (rd rt rs : Reg)
  | srl (rd rt : Reg) (amount : Nat)
  | srlv (rd rt rs : Reg)
  | sub (rd rs rt : Reg)
  | subu (rd rs rt : Reg)
  | sw (rt : Reg) (offset : Int) (base : Reg)
  | syscall (code : Nat)
  | breakpoint (code : Nat)
  | xor (rd rs rt : Reg)
  | xori (rt rs : Reg) (value : Int)
  | data (word : UInt32)
  | addS (fd fs ft : FReg)
  | addD (fd fs ft : FReg)
  | subS (fd fs ft : FReg)
  | subD (fd fs ft : FReg)
  | mulS (fd fs ft : FReg)
  | mulD (fd fs ft : FReg)
  | divS (fd fs ft : FReg)
  | divD (fd fs ft : FReg)
  | sqrtS (fd fs : FReg)
  | sqrtD (fd fs : FReg)
  | absS (fd fs : FReg)
  | absD (fd fs : FReg)
  | movS (fd fs : FReg)
  | movD (fd fs : FReg)
  | negS (fd fs : FReg)
  | negD (fd fs : FReg)
  | cvtSD (fd fs : FReg)
  | cvtSW (fd fs : FReg)
  | cvtDS (fd fs : FReg)
  | cvtDW (fd fs : FReg)
  | cvtWS (fd fs : FReg)
  | cvtWD (fd fs : FReg)
  | cEqS (fs ft : FReg)
  | cEqD (fs ft : FReg)
  | cLtS (fs ft : FReg)
  | cLtD (fs ft : FReg)
  | cLeS (fs ft : FReg)
  | cLeD (fs ft : FReg)
  | mfc1 (rt : Reg) (fs : FReg)
  | mtc1 (rt : Reg) (fs : FReg)
  | lwc1 (ft : FReg) (offset : Int) (base : Reg)
  | swc1 (ft : FReg) (offset : Int) (base : Reg)
  | bc1f (target : Label)
  | bc1t (target : Label)

/-- The instruction of a command at the address `pc`. -/
def Command.instruction (pc : UInt32) : Command → Except AssemblyError Symbolic
  | add rd rs rt => .ok (.special Funct.add rd rs rt 0)
  | addi rt rs value => .ok (.literal Opcode.addi rs.id rt.id value)
  | addiu rt rs value => .ok (.literal Opcode.addiu rs.id rt.id value)
  | addu rd rs rt => .ok (.special Funct.addu rd rs rt 0)
  | and rd rs rt => .ok (.special Funct.and rd rs rt 0)
  | andi rt rs value => .ok (.literal Opcode.andi rs.id rt.id value)
  | beq rs rt target => .ok (.branch Opcode.beq rs.id rt.id target)
  | bne rs rt target => .ok (.branch Opcode.bne rs.id rt.id target)
  | bgez rs target => .ok (.branch Opcode.regimm rs.id ZeroBranch.bgez target)
  | bgezal rs target => .ok (.branch Opcode.regimm rs.id ZeroBranch.bgezal target)
  | bltz rs target => .ok (.branch Opcode.regimm rs.id ZeroBranch.bltz target)
  | bltzal rs target => .ok (.branch Opcode.regimm rs.id ZeroBranch.bltzal target)
  | blez rs target => .ok (.branch Opcode.blez rs.id 0 target)
  | bgtz rs target => .ok (.branch Opcode.bgtz rs.id 0 target)
  | div rs rt => .ok (.special Funct.div .zero rs rt 0)
  | divu rs rt => .ok (.special Funct.divu .zero rs rt 0)
  | j address => Symbolic.jumpToAddress Opcode.j address pc
  | jal address => Symbolic.jumpToAddress Opcode.jal address pc
  | jLabel target => .ok (.jumpToLabel Opcode.j target)
  | jalLabel target => .ok (.jumpToLabel Opcode.jal target)
  | jr rs => .ok (.special Funct.jr .zero rs .zero 0)
  | jalr rd rs => .ok (.special Funct.jalr rd rs .zero 0)
  | lb rt offset base => .ok (.literal Opcode.lb base.id rt.id offset)
  | lbu rt offset base => .ok (.literal Opcode.lbu base.id rt.id offset)
  | lh rt offset base => .ok (.literal Opcode.lh base.id rt.id offset)
  | lhu rt offset base => .ok (.literal Opcode.lhu base.id rt.id offset)
  | lui rt value => .ok (.literal Opcode.lui 0 rt.id value)
  | lw rt offset base => .ok (.literal Opcode.lw base.id rt.id offset)
  | mfhi rd => .ok (.special Funct.mfhi rd .zero .zero 0)
  | mflo rd => .ok (.special Funct.mflo rd .zero .zero 0)
  | mthi rs => .ok (.special Funct.mthi .zero rs .zero 0)
  | mtlo rs => .ok (.special Funct.mtlo .zero rs .zero 0)
  | mult rs rt => .ok (.special Funct.mult .zero rs rt 0)
  | multu rs rt => .ok (.special Funct.multu .zero rs rt 0)
  | nop => .ok .nop
  | nor rd rs rt => .ok (.special Funct.nor rd rs rt 0)
  | or rd rs rt => .ok (.special Funct.or rd rs rt 0)
  | ori rt rs value => .ok (.literal Opcode.ori rs.id rt.id value)
  | sb rt offset base => .ok (.literal Opcode.sb base.id rt.id offset)
  | sh rt offset base => .ok (.literal Opcode.sh base.id rt.id offset)
  | sll rd rt amount => .ok (.special Funct.sll rd .zero rt amount)
  | sllv rd rt rs => .ok (.special Funct.sllv rd rs rt 0)
  | slt rd rs rt => .ok (.special Funct.slt rd rs rt 0)
  | slti rt rs value => .ok (.literal Opcode.slti rs.id rt.id value)
  | sltiu rt rs value => .ok (.literal Opcode.sltiu rs.id rt.id value)
  | sltu rd rs rt => .ok (.special Funct.sltu rd rs rt 0)
  | sra rd rt amount => .ok (.special Funct.sra rd .zero rt amount)
  | srav rd rt rs => .ok (.special Funct.srav rd rs rt 0)
  | srl rd rt amount => .ok (.special Funct.srl rd .zero rt amount)
  | srlv rd rt rs => .ok (.special Funct.srlv rd rs rt 0)
  | sub rd rs rt => .ok (.special Funct.sub rd rs rt 0)
  | subu rd rs rt => .ok (.special Funct.subu rd rs rt 0)
  | sw rt offset base => .ok (.literal Opcode.sw base.id rt.id offset)
  | syscall code => .ok (.specialTrap Funct.syscall code)
  | breakpoint code => .ok (.specialTrap Funct.breakpoint code)
  | xor rd rs rt => .ok (.special Funct.xor rd rs rt 0)
  | xori rt rs value => .ok (.literal Opcode.xori rs.id rt.id value)
  | data word => .ok (.data word)
  | addS fd fs ft => .ok (.floatOp Cop1.single Cop1.add fd fs ft)
  | addD fd fs ft => .ok (.floatOp Cop1.double Cop1.add fd fs ft)
  | subS fd fs ft => .ok (.floatOp Cop1.single Cop1.sub fd fs ft)
  | subD fd fs ft => .ok (.floatOp Cop1.double Cop1.sub fd fs ft)
  | mulS fd fs ft => .ok (.floatOp Cop1.single Cop1.mul fd fs ft)
  | mulD fd fs ft => .ok (.floatOp Cop1.double Cop1.mul fd fs ft)
  | divS fd fs ft => .ok (.floatOp Cop1.single Cop1.div fd fs ft)
  | divD fd fs ft => .ok (.floatOp Cop1.double Cop1.div fd fs ft)
  | sqrtS fd fs => .ok (.floatOp Cop1.single Cop1.sqrt fd fs .zero)
  | sqrtD fd fs => .ok (.floatOp Cop1.double Cop1.sqrt fd fs .zero)
  | absS fd fs => .ok (.floatOp Cop1.single Cop1.abs fd fs .zero)
  | absD fd fs => .ok (.floatOp Cop1.double Cop1.abs fd fs .zero)
  | movS fd fs => .ok (.floatOp Cop1.single Cop1.mov fd fs .zero)
  | movD fd fs => .ok (.floatOp Cop1.double Cop1.mov fd fs .zero)
  | negS fd fs => .ok (.floatOp Cop1.single Cop1.neg fd fs .zero)
  | negD fd fs => .ok (.floatOp Cop1.double Cop1.neg fd fs .zero)
  | cvtSD fd fs => .ok (.floatOp Cop1.double Cop1.toSingle fd fs .zero)
  | cvtSW fd fs => .ok (.floatOp Cop1.word Cop1.toSingle fd fs .zero)
  | cvtDS fd fs => .ok (.floatOp Cop1.single Cop1.toDouble fd fs .zero)
  | cvtDW fd fs => .ok (.floatOp Cop1.word Cop1.toDouble fd fs .zero)
  | cvtWS fd fs => .ok (.floatOp Cop1.single Cop1.toWord fd fs .zero)
  | cvtWD fd fs => .ok (.floatOp Cop1.double Cop1.toWord fd fs .zero)
  | cEqS fs ft => .ok (.floatOp Cop1.single Cop1.equal .zero fs ft)
  | cEqD fs ft => .ok (.floatOp Cop1.double Cop1.equal .zero fs ft)
  | cLtS fs ft => .ok (.floatOp Cop1.single Cop1.less .zero fs ft)
  | cLtD fs ft => .ok (.floatOp Cop1.double Cop1.less .zero fs ft)
  | cLeS fs ft => .ok (.floatOp Cop1.single Cop1.lessEqual .zero fs ft)
  | cLeD fs ft => .ok (.floatOp Cop1.double Cop1.lessEqual .zero fs ft)
  | mfc1 rt fs => .ok (.floatMove Cop1.moveFrom rt fs)
  | mtc1 rt fs => .ok (.floatMove Cop1.moveTo rt fs)
  | lwc1 ft offset base => .ok (.literal Opcode.lwc1 base.id ft.id offset)
  | swc1 ft offset base => .ok (.literal Opcode.swc1 base.id ft.id offset)
  | bc1f target => .ok (.branch Opcode.cop1 Cop1.branch 0 target)
  | bc1t target => .ok (.branch Opcode.cop1 Cop1.branch 1 target)

end Mips32
