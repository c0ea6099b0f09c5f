/-
# The catalog and the commands agree

There are two ways to ask for a machine instruction: by a catalog entry with a list
of operands, and by a command with arguments of fixed kinds. Both were written down
instruction by instruction. Here each mnemonic is given its command, and it is
proved that both ways lead to the same session with the same outcome, whenever the
operands have the shape of the entry and its numbers have the widths that the
arguments of commands have.
-/
import Mips32.Request
import Mips32.Proofs.Shape

namespace Mips32

/-- A command that waits for its arguments, by the shape of the operands that
provide them. -/
inductive CommandForm
  | threeRegs (make : Reg → Reg → Reg → Command)
  | shiftByReg (make : Reg → Reg → Reg → Command)
  | shiftByAmount (make : Reg → Reg → Nat → Command)
  | twoSources (make : Reg → Reg → Command)
  | destination (make : Reg → Command)
  | source (make : Reg → Command)
  | link (make : Reg → Reg → Command)
  | immediate (make : Reg → Reg → Int → Command)
  | upperImmediate (make : Reg → Int → Command)
  | memory (make : Reg → Int → Reg → Command)
  | floatMemory (make : FReg → Int → Reg → Command)
  | branch (make : Reg → Reg → Label → Command)
  | zeroBranch (make : Reg → Label → Command)
  | floatBranch (make : Label → Command)
  | jump (toAddress : UInt32 → Command) (toLabel : Label → Command)
  | trap (make : Nat → Command)
  | floatBinary (make : FReg → FReg → FReg → Command)
  | floatUnary (make : FReg → FReg → Command)
  | floatCompare (make : FReg → FReg → Command)
  | floatMove (make : Reg → FReg → Command)
  | bare (command : Command)

/-- The command that operands make, with the operands as its arguments in the same
order. A jump goes to an address or to a label; a link register that is left out is
the return address, and a trap code that is left out is zero. -/
def CommandForm.command? : CommandForm → List (Operand Label) → Option Command
  | threeRegs make, [.reg rd, .reg rs, .reg rt] => some (make rd rs rt)
  | shiftByReg make, [.reg rd, .reg rt, .reg rs] => some (make rd rt rs)
  | shiftByAmount make, [.reg rd, .reg rt, .number amount] => some (make rd rt amount.toNat)
  | twoSources make, [.reg rs, .reg rt] => some (make rs rt)
  | destination make, [.reg rd] => some (make rd)
  | source make, [.reg rs] => some (make rs)
  | link make, [.reg rs] => some (make .ra rs)
  | link make, [.reg rd, .reg rs] => some (make rd rs)
  | immediate make, [.reg rt, .reg rs, .number value] => some (make rt rs value)
  | upperImmediate make, [.reg rt, .number value] => some (make rt value)
  | memory make, [.reg rt, .memory offset base] => some (make rt offset base)
  | floatMemory make, [.freg ft, .memory offset base] => some (make ft offset base)
  | branch make, [.reg rs, .reg rt, .label target] => some (make rs rt target)
  | zeroBranch make, [.reg rs, .label target] => some (make rs target)
  | floatBranch make, [.label target] => some (make target)
  | jump toAddress _, [.number address] => some (toAddress (UInt32.ofNat address.toNat))
  | jump _ toLabel, [.label target] => some (toLabel target)
  | trap make, [] => some (make 0)
  | trap make, [.number code] => some (make code.toNat)
  | floatBinary make, [.freg fd, .freg fs, .freg ft] => some (make fd fs ft)
  | floatUnary make, [.freg fd, .freg fs] => some (make fd fs)
  | floatCompare make, [.freg fs, .freg ft] => some (make fs ft)
  | floatMove make, [.reg rt, .freg fs] => some (make rt fs)
  | bare command, [] => some command
  | _, _ => none

/-- The commands by mnemonic, in the order of the catalog. -/
def Command.forms : List (String × CommandForm) :=
  [("add", .threeRegs .add),
    ("addu", .threeRegs .addu),
    ("and", .threeRegs .and),
    ("nor", .threeRegs .nor),
    ("or", .threeRegs .or),
    ("slt", .threeRegs .slt),
    ("sltu", .threeRegs .sltu),
    ("sub", .threeRegs .sub),
    ("subu", .threeRegs .subu),
    ("xor", .threeRegs .xor),
    ("sllv", .shiftByReg .sllv),
    ("srlv", .shiftByReg .srlv),
    ("srav", .shiftByReg .srav),
    ("sll", .shiftByAmount .sll),
    ("srl", .shiftByAmount .srl),
    ("sra", .shiftByAmount .sra),
    ("mult", .twoSources .mult),
    ("multu", .twoSources .multu),
    ("div", .twoSources .div),
    ("divu", .twoSources .divu),
    ("mfhi", .destination .mfhi),
    ("mflo", .destination .mflo),
    ("mthi", .source .mthi),
    ("mtlo", .source .mtlo),
    ("jr", .source .jr),
    ("jalr", .link .jalr),
    ("syscall", .trap .syscall),
    ("break", .trap .breakpoint),
    ("addi", .immediate .addi),
    ("addiu", .immediate .addiu),
    ("andi", .immediate .andi),
    ("ori", .immediate .ori),
    ("slti", .immediate .slti),
    ("sltiu", .immediate .sltiu),
    ("xori", .immediate .xori),
    ("lui", .upperImmediate .lui),
    ("lb", .memory .lb),
    ("lbu", .memory .lbu),
    ("lh", .memory .lh),
    ("lhu", .memory .lhu),
    ("lw", .memory .lw),
    ("sb", .memory .sb),
    ("sh", .memory .sh),
    ("sw", .memory .sw),
    ("lwc1", .floatMemory .lwc1),
    ("swc1", .floatMemory .swc1),
    ("beq", .branch .beq),
    ("bne", .branch .bne),
    ("blez", .zeroBranch .blez),
    ("bgtz", .zeroBranch .bgtz),
    ("bltz", .zeroBranch .bltz),
    ("bgez", .zeroBranch .bgez),
    ("bltzal", .zeroBranch .bltzal),
    ("bgezal", .zeroBranch .bgezal),
    ("bc1f", .floatBranch .bc1f),
    ("bc1t", .floatBranch .bc1t),
    ("j", .jump .j .jLabel),
    ("jal", .jump .jal .jalLabel),
    ("add.s", .floatBinary .addS),
    ("add.d", .floatBinary .addD),
    ("sub.s", .floatBinary .subS),
    ("sub.d", .floatBinary .subD),
    ("mul.s", .floatBinary .mulS),
    ("mul.d", .floatBinary .mulD),
    ("div.s", .floatBinary .divS),
    ("div.d", .floatBinary .divD),
    ("sqrt.s", .floatUnary .sqrtS),
    ("sqrt.d", .floatUnary .sqrtD),
    ("abs.s", .floatUnary .absS),
    ("abs.d", .floatUnary .absD),
    ("mov.s", .floatUnary .movS),
    ("mov.d", .floatUnary .movD),
    ("neg.s", .floatUnary .negS),
    ("neg.d", .floatUnary .negD),
    ("cvt.s.d", .floatUnary .cvtSD),
    ("cvt.s.w", .floatUnary .cvtSW),
    ("cvt.d.s", .floatUnary .cvtDS),
    ("cvt.d.w", .floatUnary .cvtDW),
    ("cvt.w.s", .floatUnary .cvtWS),
    ("cvt.w.d", .floatUnary .cvtWD),
    ("c.eq.s", .floatCompare .cEqS),
    ("c.eq.d", .floatCompare .cEqD),
    ("c.lt.s", .floatCompare .cLtS),
    ("c.lt.d", .floatCompare .cLtD),
    ("c.le.s", .floatCompare .cLeS),
    ("c.le.d", .floatCompare .cLeD),
    ("mfc1", .floatMove .mfc1),
    ("mtc1", .floatMove .mtc1),
    ("nop", .bare .nop)]

/-- The command of a mnemonic. -/
def Command.form? (mnemonic : String) : Option CommandForm :=
  Command.forms.lookup mnemonic

/-- A command form makes the instructions that an entry forms. -/
def CommandForm.Fits (entry : Entry) : CommandForm → Prop
  | threeRegs make =>
    entry.shape = .threeRegs ∧ ∀ pc rd rs rt,
      (make rd rs rt).instruction pc = .ok (.special entry.funct rd rs rt 0)
  | shiftByReg make =>
    entry.shape = .shiftByReg ∧ ∀ pc rd rt rs,
      (make rd rt rs).instruction pc = .ok (.special entry.funct rd rs rt 0)
  | shiftByAmount make =>
    entry.shape = .shiftByAmount ∧ ∀ pc rd rt amount,
      (make rd rt amount).instruction pc = .ok (.special entry.funct rd .zero rt amount)
  | twoSources make =>
    entry.shape = .twoSources ∧ ∀ pc rs rt,
      (make rs rt).instruction pc = .ok (.special entry.funct .zero rs rt 0)
  | destination make =>
    entry.shape = .destination ∧ ∀ pc rd,
      (make rd).instruction pc = .ok (.special entry.funct rd .zero .zero 0)
  | source make =>
    entry.shape = .source ∧ ∀ pc rs,
      (make rs).instruction pc = .ok (.special entry.funct .zero rs .zero 0)
  | link make =>
    entry.shape = .link ∧ ∀ pc rd rs,
      (make rd rs).instruction pc = .ok (.special entry.funct rd rs .zero 0)
  | immediate make =>
    entry.shape = .immediate ∧ ∀ pc rt rs value,
      (make rt rs value).instruction pc = .ok (.literal entry.opcode rs.id rt.id value)
  | upperImmediate make =>
    entry.shape = .upperImmediate ∧ ∀ pc rt value,
      (make rt value).instruction pc = .ok (.literal entry.opcode 0 rt.id value)
  | memory make =>
    entry.shape = .memory ∧ ∀ pc rt offset base,
      (make rt offset base).instruction pc = .ok (.literal entry.opcode base.id rt.id offset)
  | floatMemory make =>
    entry.shape = .floatMemory ∧ ∀ pc ft offset base,
      (make ft offset base).instruction pc = .ok (.literal entry.opcode base.id ft.id offset)
  | branch make =>
    entry.shape = .branch ∧ ∀ pc rs rt target,
      (make rs rt target).instruction pc = .ok (.branch entry.opcode rs.id rt.id target)
  | zeroBranch make =>
    entry.shape = .zeroBranch ∧ ∀ pc rs target,
      (make rs target).instruction pc = .ok (.branch entry.opcode rs.id entry.selector target)
  | floatBranch make =>
    entry.shape = .floatBranch ∧ ∀ pc target,
      (make target).instruction pc = .ok (.branch entry.opcode Cop1.branch entry.selector target)
  | jump toAddress toLabel =>
    entry.shape = .jump ∧
      (∀ pc address, (toAddress address).instruction pc =
        Symbolic.jumpToAddress entry.opcode address pc) ∧
      ∀ pc target, (toLabel target).instruction pc = .ok (.jumpToLabel entry.opcode target)
  | trap make =>
    entry.shape = .trap ∧ ∀ pc code,
      (make code).instruction pc = .ok (.specialTrap entry.funct code)
  | floatBinary make =>
    entry.shape = .floatBinary ∧ ∀ pc fd fs ft,
      (make fd fs ft).instruction pc = .ok (.floatOp entry.selector entry.funct fd fs ft)
  | floatUnary make =>
    entry.shape = .floatUnary ∧ ∀ pc fd fs,
      (make fd fs).instruction pc = .ok (.floatOp entry.selector entry.funct fd fs .zero)
  | floatCompare make =>
    entry.shape = .floatCompare ∧ ∀ pc fs ft,
      (make fs ft).instruction pc = .ok (.floatOp entry.selector entry.funct .zero fs ft)
  | floatMove make =>
    entry.shape = .floatMove ∧ ∀ pc rt fs,
      (make rt fs).instruction pc = .ok (.floatMove entry.selector rt fs)
  | bare command => entry.shape = .bare ∧ ∀ pc, command.instruction pc = .ok .nop

/-- The two tables agree row by row: the mnemonics are the same, and so are the
numbers that the entry and the command fill in. -/
theorem forms_fit : ∀ row ∈ Entry.table.zip Command.forms,
    row.2.1 = row.1.mnemonic ∧ row.2.2.Fits row.1 := by
  simp only [Entry.table, Command.forms, List.zip_cons_cons, List.forall_mem_cons, true_and]
  and_intros
  all_goals
    first
    | rfl
    | (intros; rfl)
    | (intro row listed; cases listed)

theorem lookup_of_mem {rows : List (String × CommandForm)}
    (distinct : (rows.map Prod.fst).Nodup) {name : String} {form : CommandForm}
    (listed : (name, form) ∈ rows) : rows.lookup name = some form := by
  induction rows with
  | nil => cases listed
  | cons row rest ih =>
      obtain ⟨fresh, distinct⟩ := List.nodup_cons.mp distinct
      rcases List.mem_cons.mp listed with rfl | later
      · simp
      · have other : name ≠ row.1 := fun same =>
          fresh (same ▸ List.mem_map_of_mem (f := Prod.fst) later)
        rw [List.lookup_cons, beq_false_of_ne other]
        exact ih distinct later

theorem nodup_forms : (Command.forms.map Prod.fst).Nodup := by
  decide +kernel

/-- Every mnemonic has a command that fits its entry. -/
theorem exists_form_of_mem {entry : Entry} (listed : entry ∈ Entry.table) :
    ∃ form, Command.form? entry.mnemonic = some form ∧ form.Fits entry := by
  obtain ⟨i, inside, rfl⟩ := List.getElem_of_mem listed
  have sameLength : Entry.table.length = Command.forms.length := rfl
  have inForms : i < Command.forms.length := sameLength ▸ inside
  have inRows : i < (Entry.table.zip Command.forms).length := by
    rw [List.length_zip]
    omega
  have row := forms_fit _ (List.getElem_mem inRows)
  rw [List.getElem_zip] at row
  refine ⟨Command.forms[i].2, ?_, row.2⟩
  rw [← row.1]
  exact lookup_of_mem nodup_forms (List.getElem_mem inForms)

/-- The numbers in an operand have the width of the arguments of commands: offsets
and immediates have 32 bits with a sign, shift amounts, trap codes and addresses
without. -/
def Shape.Admits (shape : Shape) : Operand Label → Prop
  | .number value =>
    if shape = .immediate ∨ shape = .upperImmediate then IsSigned32 value
    else IsUnsigned32 value
  | .memory offset _ => IsSigned32 offset
  | .reg _ | .freg _ | .label _ => True

theorem Entry.literal_of_width {value : Int} (width : IsSigned32 value) (entry : Entry)
    (rs rt : Nat) :
    (do return Symbolic.literal entry.opcode rs rt (← entry.signed value)) =
      .ok (.literal entry.opcode rs rt value) := by
  rw [Entry.signed, if_pos width]
  rfl

/-- The catalog is found by its own mnemonics. -/
theorem Entry.find?_of_mem : ∀ entry ∈ Entry.table,
    Entry.find? entry.mnemonic = some entry := by
  decide +kernel

/-- A command form that fits an entry makes, from operands of its shape, the command
that has the instruction of the entry. -/
theorem CommandForm.Fits.exists_command {form : CommandForm} {entry : Entry}
    (fits : form.Fits entry) {operands : List (Operand Label)}
    (taken : entry.shape.Takes operands)
    (admitted : ∀ operand ∈ operands, entry.shape.Admits operand) :
    ∃ command, form.command? operands = some command ∧
      ∀ pc, entry.instruction pc operands = (command.instruction pc).mapError .assembly := by
  obtain ⟨mnemonic, shape, opcode, funct, selector⟩ := entry
  cases form with
  | shiftByAmount make =>
      obtain ⟨rfl, same⟩ := fits
      cases taken with
      | shiftByAmount rd rt amount =>
          have width : IsUnsigned32 amount := admitted (.number amount) (by simp)
          refine ⟨_, rfl, fun pc => ?_⟩
          rw [same]
          exact if_pos width
  | immediate make =>
      obtain ⟨rfl, same⟩ := fits
      cases taken with
      | immediate rt rs value =>
          have width : IsSigned32 value := admitted (.number value) (by simp)
          refine ⟨_, rfl, fun pc => ?_⟩
          rw [same]
          exact Entry.literal_of_width width ..
  | upperImmediate make =>
      obtain ⟨rfl, same⟩ := fits
      cases taken with
      | upperImmediate rt value =>
          have width : IsSigned32 value := admitted (.number value) (by simp)
          refine ⟨_, rfl, fun pc => ?_⟩
          rw [same]
          exact Entry.literal_of_width width ..
  | memory make =>
      obtain ⟨rfl, same⟩ := fits
      cases taken with
      | memory rt offset base =>
          have width : IsSigned32 offset := admitted (.memory offset base) (by simp)
          refine ⟨_, rfl, fun pc => ?_⟩
          rw [same]
          exact Entry.literal_of_width width ..
  | floatMemory make =>
      obtain ⟨rfl, same⟩ := fits
      cases taken with
      | floatMemory ft offset base =>
          have width : IsSigned32 offset := admitted (.memory offset base) (by simp)
          refine ⟨_, rfl, fun pc => ?_⟩
          rw [same]
          exact Entry.literal_of_width width ..
  | jump toAddress toLabel =>
      obtain ⟨rfl, sameAddress, sameLabel⟩ := fits
      cases taken with
      | jumpToAddress address =>
          have width : IsUnsigned32 address := admitted (.number address) (by simp)
          refine ⟨_, rfl, fun pc => ?_⟩
          rw [sameAddress]
          exact if_pos width
      | jumpToLabel target => exact ⟨_, rfl, fun pc => by rw [sameLabel]; rfl⟩
  | trap make =>
      obtain ⟨rfl, same⟩ := fits
      cases taken with
      | trap => exact ⟨_, rfl, fun pc => by rw [same]; rfl⟩
      | trapCode code =>
          have width : IsUnsigned32 code := admitted (.number code) (by simp)
          refine ⟨_, rfl, fun pc => ?_⟩
          rw [same]
          exact if_pos width
  | threeRegs | shiftByReg | twoSources | destination | source | link | branch | zeroBranch
  | floatBranch | floatBinary | floatUnary | floatCompare | floatMove | bare =>
      -- Without numbers there is nothing to refuse.
      obtain ⟨rfl, same⟩ := fits
      cases taken <;> exact ⟨_, rfl, fun pc => by rw [same]; rfl⟩

/-- Asking for an instruction by its catalog entry and asking for it by its command
is the same request, for every mnemonic and all operands of its shape: the session
afterwards is the same, and so is the refusal if there is one. -/
theorem perform_entry_eq_perform_command (session : Session) {entry : Entry}
    (listed : entry ∈ Entry.table) {operands : List (Operand Label)}
    (taken : entry.shape.Takes operands)
    (admitted : ∀ operand ∈ operands, entry.shape.Admits operand) :
    Entry.find? entry.mnemonic = some entry ∧
      ∃ form command, Command.form? entry.mnemonic = some form ∧
        form.command? operands = some command ∧
        session.perform (.entry entry operands) = session.perform (.command command) := by
  obtain ⟨form, named, fits⟩ := exists_form_of_mem listed
  obtain ⟨command, made, same⟩ := fits.exists_command taken admitted
  refine ⟨Entry.find?_of_mem entry listed, form, command, named, made, ?_⟩
  rw [Session.perform, Session.perform, same]

/-- A jump out of its segment is refused both ways alike. -/
theorem perform_entry_eq_perform_command_jal :
    let session := Session.new {}
    let entry : Entry := ⟨"jal", .jump, Opcode.jal, 0, 0⟩
    let operands : List (Operand Label) := [.number 0x10000000]
    entry ∈ Entry.table ∧ entry.shape.Takes operands ∧
      (∀ operand ∈ operands, entry.shape.Admits operand) ∧
      session.perform (.entry entry operands) = session.perform (.command (.jal 0x10000000)) ∧
      (session.perform (.command (.jal 0x10000000))).2 =
        .error (.assembly (.jumpOutsideSegment 0x10000000 0)) := by
  intro session entry operands
  have listed : entry ∈ Entry.table := by decide
  have taken : entry.shape.Takes operands := .jumpToAddress _
  have admitted : ∀ operand ∈ operands, entry.shape.Admits operand := by
    intro operand given
    rw [List.mem_singleton.mp given]
    show IsUnsigned32 0x10000000
    decide
  obtain ⟨-, form, command, named, made, same⟩ :=
    perform_entry_eq_perform_command session listed taken admitted
  cases named
  cases made
  exact ⟨listed, taken, admitted, same, by with_unfolding_all rfl⟩

end Mips32
