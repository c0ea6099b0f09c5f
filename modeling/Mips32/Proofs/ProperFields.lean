/-
# Fields that a program cannot get wrong

The fields of an instruction hold three kinds of values: operation codes, which
belong to the mnemonic; numbers of registers and word indices of jumps, which are
in range by what they are; and shift amounts, trap codes and immediates, which the
program chooses freely. An instruction asked for by name, as a command, a
pseudo-instruction or an entry of the catalog, is right about the first two kinds.
Only an instruction that is given field by field can be wrong there, and only a
floating point register that does not exist.
-/
import Mips32.Proofs.History
import Mips32.Proofs.MachineTarget
import Mips32.Proofs.Shape

namespace Mips32

/-! ## Instructions -/

/-- The operation codes, the numbers of registers and the word index of an
instruction fit their fields. Nothing is asked of shift amounts, trap codes,
immediates and labels. -/
def Symbolic.Proper : Symbolic → Prop
  | .register opcode rs rt rd _ funct =>
    Field.opcode.Accepts opcode ∧ Field.rs.Accepts rs ∧ Field.rt.Accepts rt ∧
      Field.rd.Accepts rd ∧ Field.funct.Accepts funct
  | .immediate opcode rs rt _ =>
    Field.opcode.Accepts opcode ∧ Field.rs.Accepts rs ∧ Field.rt.Accepts rt
  | .jump opcode (.index index) => Field.opcode.Accepts opcode ∧ Field.jumpIndex.Accepts index
  | .jump opcode (.label _) => Field.opcode.Accepts opcode
  | .trap opcode _ funct => Field.opcode.Accepts opcode ∧ Field.funct.Accepts funct
  | .float opcode fmt ft fs fd funct =>
    Field.opcode.Accepts opcode ∧ Field.fmt.Accepts fmt ∧ Field.ft.Accepts ft ∧
      Field.fs.Accepts fs ∧ Field.fd.Accepts fd ∧ Field.funct.Accepts funct
  | .data _ | .nop => True

theorem Field.accepts_of_lt {field : Field} (fiveBits : field.capacity = 0x20) {value : Nat}
    (small : value < 32) : field.Accepts value := by
  cases field <;> simp [capacity] at fiveBits <;> simp [Accepts, least, greatest] <;> omega

/-- The number of a register fits every field for registers. -/
theorem Reg.accepts_id (reg : Reg) {field : Field} (fiveBits : field.capacity = 0x20) :
    field.Accepts reg.id :=
  Field.accepts_of_lt fiveBits reg.id.isLt

/-- A word index that was found has 26 bits. -/
theorem accepts_of_jumpIndex {target pc : UInt32} {index : Nat}
    (found : jumpIndex target pc = .ok index) : Field.jumpIndex.Accepts index := by
  obtain ⟨-, -, rfl⟩ := jumpIndex_eq_ok found
  constructor
  · exact Int.natCast_nonneg _
  · simp only [Field.greatest]
    omega

namespace Symbolic

theorem proper_special {funct : Nat} (code : Field.funct.Accepts funct) (rd rs rt : Reg)
    (shift : Nat) : (Symbolic.special funct rd rs rt shift).Proper :=
  ⟨by decide, rs.accepts_id rfl, rt.accepts_id rfl, rd.accepts_id rfl, code⟩

theorem proper_floatOp {fmt funct : Nat} (format : Field.fmt.Accepts fmt)
    (code : Field.funct.Accepts funct) {fd fs ft : FReg} (fdExists : fd.id < 32)
    (fsExists : fs.id < 32) (ftExists : ft.id < 32) :
    (Symbolic.floatOp fmt funct fd fs ft).Proper :=
  ⟨by decide, format, Field.accepts_of_lt rfl ftExists, Field.accepts_of_lt rfl fsExists,
    Field.accepts_of_lt rfl fdExists, code⟩

theorem proper_floatMove {direction : Nat} (code : Field.fmt.Accepts direction) (rt : Reg)
    {fs : FReg} (fsExists : fs.id < 32) : (Symbolic.floatMove direction rt fs).Proper :=
  ⟨by decide, code, rt.accepts_id rfl, Field.accepts_of_lt rfl fsExists, by decide, by decide⟩

theorem proper_jumpToLabel {opcode : Nat} (code : Field.opcode.Accepts opcode) (label : Label) :
    (Symbolic.jumpToLabel opcode label).Proper :=
  code

theorem proper_jumpToAddress {opcode : Nat} (code : Field.opcode.Accepts opcode)
    {address pc : UInt32} {instr : Symbolic}
    (formed : jumpToAddress opcode address pc = .ok instr) : instr.Proper := by
  obtain ⟨index, found, formed⟩ := bind_eq_ok_iff.mp formed
  cases formed
  exact ⟨code, accepts_of_jumpIndex found⟩

end Symbolic

/-! ## Commands -/

/-- The floating point registers of a command. -/
def Command.fregs : Command → List FReg
  | addS fd fs ft | addD fd fs ft | subS fd fs ft | subD fd fs ft | mulS fd fs ft
  | mulD fd fs ft | divS fd fs ft | divD fd fs ft => [fd, fs, ft]
  | sqrtS fd fs | sqrtD fd fs | absS fd fs | absD fd fs | movS fd fs | movD fd fs
  | negS fd fs | negD fd fs | cvtSD fd fs | cvtSW fd fs | cvtDS fd fs | cvtDW fd fs
  | cvtWS fd fs | cvtWD fd fs => [fd, fs]
  | cEqS fs ft | cEqD fs ft | cLtS fs ft | cLtD fs ft | cLeS fs ft | cLeD fs ft => [fs, ft]
  | mfc1 _ fs | mtc1 _ fs => [fs]
  | lwc1 ft _ _ | swc1 ft _ _ => [ft]
  | _ => []

/-- The instruction of a command is proper if its floating point registers exist. -/
theorem Command.proper_of_instruction {command : Command}
    (present : ∀ reg ∈ command.fregs, reg.id < 32) {pc : UInt32} {instr : Symbolic}
    (formed : command.instruction pc = .ok instr) : instr.Proper := by
  cases command with
  | add | addu | and | nor | or | slt | sltu | sub | subu | xor | sll | sllv | sra | srav
  | srl | srlv | div | divu | mult | multu | jr | jalr | mfhi | mflo | mthi | mtlo =>
      cases formed
      exact Symbolic.proper_special (by decide) ..
  | addi | addiu | andi | ori | slti | sltiu | xori | lb | lbu | lh | lhu | lw | sb | sh | sw
  | beq | bne =>
      cases formed
      exact ⟨by decide, Reg.accepts_id _ rfl, Reg.accepts_id _ rfl⟩
  | bgez | bgezal | bltz | bltzal | blez | bgtz =>
      cases formed
      exact ⟨by decide, Reg.accepts_id _ rfl, by decide⟩
  | lui =>
      cases formed
      exact ⟨by decide, by decide, Reg.accepts_id _ rfl⟩
  | bc1f | bc1t =>
      cases formed
      exact ⟨by decide, by decide, by decide⟩
  | j | jal => exact Symbolic.proper_jumpToAddress (by decide) formed
  | jLabel | jalLabel =>
      cases formed
      exact Symbolic.proper_jumpToLabel (by decide) _
  | syscall | breakpoint =>
      cases formed
      exact ⟨by decide, by decide⟩
  | data | nop =>
      cases formed
      trivial
  | addS | addD | subS | subD | mulS | mulD | divS | divD =>
      cases formed
      exact Symbolic.proper_floatOp (by decide) (by decide) (present _ (by simp [fregs]))
        (present _ (by simp [fregs])) (present _ (by simp [fregs]))
  | sqrtS | sqrtD | absS | absD | movS | movD | negS | negD | cvtSD | cvtSW | cvtDS | cvtDW
  | cvtWS | cvtWD =>
      cases formed
      exact Symbolic.proper_floatOp (by decide) (by decide) (present _ (by simp [fregs]))
        (present _ (by simp [fregs])) (by decide)
  | cEqS | cEqD | cLtS | cLtD | cLeS | cLeD =>
      cases formed
      exact Symbolic.proper_floatOp (by decide) (by decide) (by decide)
        (present _ (by simp [fregs])) (present _ (by simp [fregs]))
  | mfc1 | mtc1 =>
      cases formed
      exact Symbolic.proper_floatMove (by decide) _ (present _ (by simp [fregs]))
  | lwc1 ft offset base | swc1 ft offset base =>
      cases formed
      have small : ft.id < 32 := present ft (by simp [fregs])
      exact ⟨by decide, base.accepts_id rfl, Field.accepts_of_lt rfl small⟩

/-! ## Pseudo-instructions -/

theorem Pseudo.proper_loadImmediate (rd : Reg) (value : Int) :
    (Pseudo.loadImmediate rd value).Proper := by
  unfold Pseudo.loadImmediate
  split <;> exact ⟨by decide, Reg.accepts_id _ rfl, Reg.accepts_id _ rfl⟩

theorem Pseudo.proper_expand (pseudo : Pseudo Label) :
    ∀ instr ∈ pseudo.expand, instr.Proper := by
  have compares (rs rt : Reg) : (Symbolic.special Funct.slt .temporary rs rt 0).Proper :=
    Symbolic.proper_special (by decide) ..
  have branches {opcode : Nat} (code : Field.opcode.Accepts opcode) (rs rt : Reg)
      (target : Label) : (Symbolic.branch opcode rs.id rt.id target).Proper :=
    ⟨code, rs.accepts_id rfl, rt.accepts_id rfl⟩
  cases pseudo with
  | b target =>
      simp only [expand, List.forall_mem_singleton]
      exact branches (by decide) ..
  | blt rs rt target | bge rs rt target | bgt rs rt target | ble rs rt target =>
      simp only [expand, List.forall_mem_cons, List.not_mem_nil, false_implies, implies_true,
        and_true]
      exact ⟨compares .., branches (by decide) ..⟩
  | neg | not | move | sgt =>
      simp only [expand, List.forall_mem_singleton]
      exact Symbolic.proper_special (by decide) ..
  | la rd | laLabel rd =>
      simp only [expand, List.forall_mem_cons, List.not_mem_nil, false_implies, implies_true,
        and_true]
      exact ⟨⟨by decide, by decide, rd.accepts_id rfl⟩,
        by decide, rd.accepts_id rfl, rd.accepts_id rfl⟩
  | li rd value =>
      simp only [expand, List.forall_mem_singleton]
      exact proper_loadImmediate rd value
  | sge rd rs rt =>
      simp only [expand, List.forall_mem_cons, List.not_mem_nil, false_implies, implies_true,
        and_true]
      exact ⟨Symbolic.proper_special (by decide) .., proper_loadImmediate ..,
        Symbolic.proper_special (by decide) ..⟩

/-! ## Catalog entries -/

/-- The numbers of an entry of the catalog fit the fields they are put into. -/
theorem Entry.codes_fit : ∀ entry ∈ Entry.table,
    Field.opcode.Accepts entry.opcode ∧ Field.funct.Accepts entry.funct ∧
      entry.selector < 32 := by
  decide

/-- The instruction of a catalog entry is proper if the floating point registers
among its operands exist. -/
theorem Entry.proper_of_instruction {entry : Entry} (listed : entry ∈ Entry.table)
    {operands : List (Operand Label)} (present : ∀ reg, .freg reg ∈ operands → reg.id < 32)
    {pc : UInt32} {instr : Symbolic} (formed : entry.instruction pc operands = .ok instr) :
    instr.Proper := by
  obtain ⟨opcodeFits, functFits, selectorFits⟩ := Entry.codes_fit entry listed
  by_cases taken : entry.shape.Takes operands
  · obtain ⟨mnemonic, shape, opcode, funct, selector⟩ := entry
    cases taken with
    | threeRegs | shiftByReg | twoSources | destination | source | link | linkTo =>
        cases formed
        exact Symbolic.proper_special functFits ..
    | shiftByAmount rd rt amount =>
        unfold Entry.instruction at formed
        dsimp only at formed
        split at formed
        · cases formed
          exact Symbolic.proper_special functFits ..
        · cases formed
    | immediate rt rs value | memory rt value rs =>
        obtain ⟨number, -, rfl⟩ := map_eq_ok_iff.mp formed
        exact ⟨opcodeFits, rs.accepts_id rfl, rt.accepts_id rfl⟩
    | upperImmediate rt value =>
        obtain ⟨number, -, rfl⟩ := map_eq_ok_iff.mp formed
        exact ⟨opcodeFits, by decide, rt.accepts_id rfl⟩
    | floatMemory ft offset base =>
        obtain ⟨number, -, rfl⟩ := map_eq_ok_iff.mp formed
        have small : ft.id < 32 := present ft (by simp)
        exact ⟨opcodeFits, base.accepts_id rfl, Field.accepts_of_lt rfl small⟩
    | branch rs rt target =>
        cases formed
        exact ⟨opcodeFits, rs.accepts_id rfl, rt.accepts_id rfl⟩
    | zeroBranch rs target =>
        cases formed
        exact ⟨opcodeFits, rs.accepts_id rfl, Field.accepts_of_lt rfl selectorFits⟩
    | floatBranch target =>
        cases formed
        exact ⟨opcodeFits, by decide, Field.accepts_of_lt rfl selectorFits⟩
    | jumpToAddress address =>
        unfold Entry.instruction at formed
        dsimp only at formed
        split at formed
        · exact Symbolic.proper_jumpToAddress opcodeFits (mapError_eq_ok_iff.mp formed)
        · cases formed
    | jumpToLabel target =>
        cases formed
        exact Symbolic.proper_jumpToLabel opcodeFits target
    | trap =>
        cases formed
        exact ⟨by decide, functFits⟩
    | trapCode code =>
        unfold Entry.instruction at formed
        dsimp only at formed
        split at formed
        · cases formed
          exact ⟨by decide, functFits⟩
        · cases formed
    | floatBinary fd fs ft =>
        cases formed
        exact Symbolic.proper_floatOp (Field.accepts_of_lt rfl selectorFits) functFits
          (present fd (by simp)) (present fs (by simp)) (present ft (by simp))
    | floatUnary fd fs =>
        cases formed
        exact Symbolic.proper_floatOp (Field.accepts_of_lt rfl selectorFits) functFits
          (present fd (by simp)) (present fs (by simp)) (by decide)
    | floatCompare fs ft =>
        cases formed
        exact Symbolic.proper_floatOp (Field.accepts_of_lt rfl selectorFits) functFits
          (by decide) (present fs (by simp)) (present ft (by simp))
    | floatMove rt fs =>
        cases formed
        exact Symbolic.proper_floatMove (Field.accepts_of_lt rfl selectorFits) rt
          (present fs (by simp))
    | bare =>
        cases formed
        trivial
  · rw [Entry.instruction_eq_mismatch taken] at formed
    cases formed

/-! ## Runs -/

/-- Requests that ask for instructions by name. Entries are those of the catalog, and
floating point registers exist; an instruction that is given field by field is not
asked for by name. -/
def Request.ByName : Request → Prop
  | .create _ | .place _ | .pseudo _ => True
  | .emit _ => False
  | .command wanted => ∀ reg ∈ wanted.fregs, reg.id < 32
  | .entry wanted operands =>
    wanted ∈ Entry.table ∧ ∀ reg, .freg reg ∈ operands → reg.id < 32

namespace Session

/-- Every instruction in the log is proper. -/
def Proper (session : Session) : Prop :=
  ∀ record ∈ session.log, record.instr.Proper

theorem Proper.emit {session : Session} (proper : session.Proper) {instr : Symbolic}
    (fits : instr.Proper) : (session.emit instr).Proper := by
  intro record logged
  rcases Array.mem_push.mp logged with earlier | rfl
  · exact proper record earlier
  · exact fits

theorem Proper.emitAll {session : Session} (proper : session.Proper) {instrs : List Symbolic}
    (fit : ∀ instr ∈ instrs, instr.Proper) : (session.emitAll instrs).Proper := by
  induction instrs generalizing session with
  | nil => exact proper
  | cons instr rest ih =>
      obtain ⟨fits, others⟩ := List.forall_mem_cons.mp fit
      exact ih (proper.emit fits) others

theorem Proper.append {session : Session} (proper : session.Proper)
    {outcome : Except EmissionError (List Symbolic)}
    (fit : ∀ instrs, outcome = .ok instrs → ∀ instr ∈ instrs, instr.Proper) :
    (session.append outcome).1.Proper := by
  cases outcome with
  | error error => exact proper
  | ok instrs => exact proper.emitAll (fit instrs rfl)

theorem Proper.perform {session : Session} (proper : session.Proper) {request : Request}
    (byName : request.ByName) : (session.perform request).1.Proper := by
  cases request with
  | create name => exact proper
  | place label =>
      rw [Session.perform]
      cases outcome : session.place label with
      | error error => exact proper
      | ok placed =>
          obtain ⟨labels, -, rfl⟩ := place_eq_ok_iff.mp outcome
          exact proper
  | emit instr => cases byName
  | command command =>
      apply proper.append
      intro instrs formed
      obtain ⟨instr, outcome, rfl⟩ := map_eq_ok_iff.mp formed
      rw [List.forall_mem_singleton]
      exact Command.proper_of_instruction byName (mapError_eq_ok_iff.mp outcome)
  | pseudo pseudo => exact proper.emitAll pseudo.proper_expand
  | entry entry operands =>
      apply proper.append
      intro instrs formed
      obtain ⟨instr, outcome, rfl⟩ := map_eq_ok_iff.mp formed
      rw [List.forall_mem_singleton]
      exact Entry.proper_of_instruction byName.1 byName.2 outcome

/-- A run of requests that ask for instructions by name keeps the log proper. -/
theorem Proper.run {session : Session} (proper : session.Proper) {requests : List Request}
    (byName : ∀ request ∈ requests, request.ByName) : (session.run requests).Proper := by
  induction requests generalizing session with
  | nil => exact proper
  | cons request rest ih =>
      obtain ⟨first, others⟩ := List.forall_mem_cons.mp byName
      exact ih (proper.perform first) others

theorem new_proper (config : Config) : (Session.new config).Proper := by
  intro record logged
  cases Array.not_mem_empty record logged

end Session

end Mips32
