/-
# A two-pass assembler

The textbook procedure, as a reference for the assembler that goes over a text
once. The first pass walks the statements with an address counter and notes the
address of each label; for that it only needs the size of a statement, which
depends on its form alone. The second pass packs each statement at its own address
directly into words, with the address of a label in the place of its name. There
are no label handles, no instructions that wait for a label, and no log. A failure
has no cause here: the reference decides which texts can be assembled, and into
which words.
-/
import Mips32.Session
import Mips32.Source.Meaning

namespace Mips32.TwoPass

/-- The addresses of the labels, by name. -/
abbrev Symbols := List (String × UInt32)

/-! ## First pass -/

/-- The number of words of a statement. -/
def size : Statement → Nat
  | .label _ => 0
  | .word values => values.length
  | .instr mnemonic _ =>
    if mnemonic ∈ ["la", "blt", "bge", "bgt", "ble"] then 2
    else if mnemonic = "sge" then 3
    else 1

/-- The address after a statement at `pc`. -/
def addressAfter (pc : UInt32) (statement : Statement) : UInt32 :=
  pc + 4 * UInt32.ofNat (size statement)

/-- The symbols after a statement at `pc`: a label is noted, and a second definition
of it is refused. -/
def note (pc : UInt32) (symbols : Symbols) : Statement → Option Symbols
  | .label name =>
    if (symbols.lookup name).isSome then none else some ((name, pc) :: symbols)
  | .word _ | .instr .. => some symbols

/-- Notes the labels that statements from `pc` on define. -/
def collect : UInt32 → Symbols → List Statement → Option Symbols
  | _, symbols, [] => some symbols
  | pc, symbols, statement :: rest => do
    collect (addressAfter pc statement) (← note pc symbols statement) rest

/-! ## Second pass -/

/-- A branch at `pc` to a label. -/
def branchTo (symbols : Symbols) (pc : UInt32) (opcode rs rt : Nat) (target : String) :
    Option Concrete := do
  let address ← symbols.lookup target
  return .immediate opcode rs rt (← (branchOffset address pc).toOption)

/-- A jump at `pc` to an address. -/
def jumpTo (pc : UInt32) (opcode : Nat) (address : UInt32) : Option Concrete := do
  return .jump opcode (← (jumpIndex address pc).toOption)

/-- An instruction with a literal immediate. -/
def withLiteral (opcode rs rt : Nat) (value : Int) : Option Concrete :=
  if IsSigned32 value then some (.immediate opcode rs rt value) else none

/-- The instruction of a catalog entry at `pc`. -/
def entryInstruction (symbols : Symbols) (pc : UInt32) (entry : Entry)
    (operands : List (Operand String)) : Option Concrete :=
  match entry.shape with
  | .threeRegs =>
    match operands with
    | [.reg rd, .reg rs, .reg rt] => some (.register 0 rs.id rt.id rd.id 0 entry.funct)
    | _ => none
  | .shiftByReg =>
    match operands with
    | [.reg rd, .reg rt, .reg rs] => some (.register 0 rs.id rt.id rd.id 0 entry.funct)
    | _ => none
  | .shiftByAmount =>
    match operands with
    | [.reg rd, .reg rt, .number amount] =>
      if IsUnsigned32 amount then some (.register 0 0 rt.id rd.id amount.toNat entry.funct)
      else none
    | _ => none
  | .twoSources =>
    match operands with
    | [.reg rs, .reg rt] => some (.register 0 rs.id rt.id 0 0 entry.funct)
    | _ => none
  | .destination =>
    match operands with
    | [.reg rd] => some (.register 0 0 0 rd.id 0 entry.funct)
    | _ => none
  | .source =>
    match operands with
    | [.reg rs] => some (.register 0 rs.id 0 0 0 entry.funct)
    | _ => none
  | .link =>
    match operands with
    | [.reg rs] => some (.register 0 rs.id 0 31 0 entry.funct)
    | [.reg rd, .reg rs] => some (.register 0 rs.id 0 rd.id 0 entry.funct)
    | _ => none
  | .immediate =>
    match operands with
    | [.reg rt, .reg rs, .number value] => withLiteral entry.opcode rs.id rt.id value
    | _ => none
  | .upperImmediate =>
    match operands with
    | [.reg rt, .number value] => withLiteral entry.opcode 0 rt.id value
    | _ => none
  | .memory =>
    match operands with
    | [.reg rt, .memory offset base] => withLiteral entry.opcode base.id rt.id offset
    | _ => none
  | .floatMemory =>
    match operands with
    | [.freg ft, .memory offset base] => withLiteral entry.opcode base.id ft.id offset
    | _ => none
  | .branch =>
    match operands with
    | [.reg rs, .reg rt, .label target] => branchTo symbols pc entry.opcode rs.id rt.id target
    | _ => none
  | .zeroBranch =>
    match operands with
    | [.reg rs, .label target] => branchTo symbols pc entry.opcode rs.id entry.selector target
    | _ => none
  | .floatBranch =>
    match operands with
    | [.label target] => branchTo symbols pc entry.opcode 8 entry.selector target
    | _ => none
  | .jump =>
    match operands with
    | [.number address] =>
      if IsUnsigned32 address then jumpTo pc entry.opcode (UInt32.ofNat address.toNat)
      else none
    | [.label target] => do jumpTo pc entry.opcode (← symbols.lookup target)
    | _ => none
  | .trap =>
    match operands with
    | [] => some (.trap 0 0 entry.funct)
    | [.number code] =>
      if IsUnsigned32 code then some (.trap 0 code.toNat entry.funct) else none
    | _ => none
  | .floatBinary =>
    match operands with
    | [.freg fd, .freg fs, .freg ft] =>
      some (.float 0x11 entry.selector ft.id fs.id fd.id entry.funct)
    | _ => none
  | .floatUnary =>
    match operands with
    | [.freg fd, .freg fs] => some (.float 0x11 entry.selector 0 fs.id fd.id entry.funct)
    | _ => none
  | .floatCompare =>
    match operands with
    | [.freg fs, .freg ft] => some (.float 0x11 entry.selector ft.id fs.id 0 entry.funct)
    | _ => none
  | .floatMove =>
    match operands with
    | [.reg rt, .freg fs] => some (.float 0x11 entry.selector rt.id fs.id 0 0)
    | _ => none
  | .bare =>
    match operands with
    | [] => some .nop
    | _ => none

/-- The comparison of two registers into the temporary register. -/
def compare (rs rt : Reg) : Concrete :=
  .register 0 rs.id rt.id 1 0 Funct.slt

/-- The two instructions that load an address. -/
def loadAddress (rd : Reg) (address : UInt32) : List Concrete :=
  [.immediate Opcode.lui 0 rd.id (address.toNat / 0x10000 : Nat),
    .immediate Opcode.ori rd.id rd.id (address.toNat % 0x10000 : Nat)]

/-- The instruction that loads a short number. -/
def loadNumber (rd : Reg) (value : Int) : Concrete :=
  .immediate (if value < 0 then Opcode.addiu else Opcode.ori) 0 rd.id value

/-- The instructions of a pseudo-instruction at `pc`. A branch after a comparison
stands one word later. -/
def pseudoInstructions (symbols : Symbols) (pc : UInt32) :
    Pseudo String → Option (List Concrete)
  | .b target => do return [← branchTo symbols pc Opcode.beq 0 0 target]
  | .blt rs rt target => do
    return [compare rs rt, ← branchTo symbols (pc + 4) Opcode.bne 1 0 target]
  | .bge rs rt target => do
    return [compare rs rt, ← branchTo symbols (pc + 4) Opcode.beq 1 0 target]
  | .bgt rs rt target => do
    return [compare rt rs, ← branchTo symbols (pc + 4) Opcode.bne 1 0 target]
  | .ble rs rt target => do
    return [compare rt rs, ← branchTo symbols (pc + 4) Opcode.beq 1 0 target]
  | .neg rd rt => some [.register 0 0 rt.id rd.id 0 Funct.sub]
  | .not rd rs => some [.register 0 rs.id 0 rd.id 0 Funct.nor]
  | .move rd rs => some [.register 0 rs.id 0 rd.id 0 Funct.addu]
  | .la rd value => some (loadAddress rd value)
  | .laLabel rd target => do return loadAddress rd (← symbols.lookup target)
  | .li rd value => some [loadNumber rd value]
  | .sge rd rs rt =>
    some [.register 0 rs.id rt.id rd.id 0 Funct.slt, loadNumber .temporary 1,
      .register 0 1 rd.id rd.id 0 Funct.subu]
  | .sgt rd rs rt => some [.register 0 rt.id rs.id rd.id 0 Funct.slt]

/-- The instructions of a mnemonic with its operands, at `pc`. -/
def instructions (symbols : Symbols) (pc : UInt32) (mnemonic : String)
    (operands : List String) : Option (List Concrete) :=
  match Source.readPseudo? mnemonic operands with
  | some reading => do pseudoInstructions symbols pc (← reading.toOption)
  | none => do
    let entry ← Entry.find? mnemonic
    let read ← operands.mapM fun text => (Source.readOperand text).toOption
    return [← entryInstruction symbols pc entry read]

/-- The word of a data value. -/
def dataWord (text : String) : Option UInt32 := do
  Source.word32? (← (Source.readNumber text).toOption)

/-- The words of a statement at `pc`. -/
def encode (symbols : Symbols) (pc : UInt32) : Statement → Option (List UInt32)
  | .label _ => some []
  | .word values => values.mapM dataWord
  | .instr mnemonic operands => do
    (← instructions symbols pc mnemonic operands).mapM fun instr => instr.encode.toOption

/-- The words of statements from `pc` on. -/
def encodeAll (symbols : Symbols) : UInt32 → List Statement → Option (List UInt32)
  | _, [] => some []
  | pc, statement :: rest => do
    let words ← encode symbols pc statement
    let more ← encodeAll symbols (addressAfter pc statement) rest
    return words ++ more

/-! ## Both passes -/

/-- The statements of a text. -/
def parse (text : String) : Option (List Statement) := do
  let lines := (Text.lines text.toList).map String.ofList
  return (← lines.mapM fun line => (Statement.parseLine line).toOption).flatten

/-- Assembles a text in two passes. -/
def assemble (config : Config) (text : String) : Option Image := do
  let program ← parse text
  let symbols ← collect config.start [] program
  let words ← encodeAll symbols config.start program
  return ⟨config.start, config.order, words.map config.order.apply⟩

end Mips32.TwoPass
