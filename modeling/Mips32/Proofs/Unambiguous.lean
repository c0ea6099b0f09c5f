/-
# Words tell instructions apart

A packed word can be read back. The fields that select an operation lie at places
that depend on the primary opcode only, so the word gives the entry of the catalog
it was formed from, and the other fields give the operands. The one exception is
the word of zeros, which stands for the instruction that does nothing and for a
shift of the zero register by zero.
-/
import Mips32.Request
import Mips32.Session
import Mips32.Proofs.MachineTarget
import Mips32.Proofs.Shape

namespace Mips32

/-! ## Fields of symbolic instructions -/

/-- The fields of an instruction that do not wait for a label, with what they hold.
An immediate is held modulo 2^16. -/
def Symbolic.settled : Symbolic → List (Field × Nat)
  | .register opcode rs rt rd shift funct =>
    [(.opcode, opcode), (.rs, rs), (.rt, rt), (.rd, rd), (.shift, shift), (.funct, funct)]
  | .immediate opcode rs rt (.literal value) =>
    [(.opcode, opcode), (.rs, rs), (.rt, rt), (.immediate, (value % 0x10000).toNat)]
  | .immediate opcode rs rt _ => [(.opcode, opcode), (.rs, rs), (.rt, rt)]
  | .jump opcode _ => [(.opcode, opcode)]
  | .trap opcode code funct => [(.opcode, opcode), (.code, code), (.funct, funct)]
  | .float opcode fmt ft fs fd funct =>
    [(.opcode, opcode), (.fmt, fmt), (.ft, ft), (.fs, fs), (.fd, fd), (.funct, funct)]
  | .data _ => []
  | .nop => []

/-- A word that was packed for a record holds the settled fields of its
instruction. -/
theorem Record.read_of_settled {record : Record} {labels : LabelTable} {word : UInt32}
    (packed : record.word labels = .ok word) {field : Field} {value : Nat}
    (listed : (field, value) ∈ record.instr.settled) : field.read word = value := by
  obtain ⟨concrete, resolved, encoded⟩ := bind_eq_ok_iff.mp packed
  have natural {field : Field} {value : Nat}
      (listed : (field, (value : Int)) ∈ concrete.fields) : field.read word = value := by
    obtain ⟨accepted, stored⟩ := Concrete.read_of_encode encoded listed
    rw [stored, Field.residue_of_accepts accepted]
  obtain ⟨pc, instr⟩ := record
  cases instr with
  | immediate opcode rs rt immediate =>
      obtain ⟨number, found, rfl⟩ := map_eq_ok_iff.mp resolved
      have leading {field : Field} {value : Nat}
          (listed : (field, value) ∈ [(Field.opcode, opcode), (.rs, rs), (.rt, rt)]) :
          field.read word = value :=
        natural (List.mem_append_left [(.immediate, number)]
          (List.mem_map_of_mem (f := fun item => (item.1, (item.2 : Int))) listed))
      cases immediate with
      | literal value =>
          cases found
          have parts : (field, value) ∈ [(Field.opcode, opcode), (.rs, rs), (.rt, rt)] ++
              [(.immediate, (number % 0x10000).toNat)] := listed
          rcases List.mem_append.mp parts with listed | listed
          · exact leading listed
          · cases List.mem_singleton.mp listed
            exact (Concrete.read_of_encode encoded (by simp [Concrete.fields])).2
      | branch label => exact leading listed
      | high label => exact leading listed
      | low label => exact leading listed
  | jump opcode target =>
      obtain ⟨index, -, rfl⟩ := map_eq_ok_iff.mp resolved
      cases List.mem_singleton.mp listed
      exact natural (by simp [Concrete.fields])
  | data word => cases listed
  | nop => cases listed
  | _ =>
      cases resolved
      exact natural (List.mem_map_of_mem (f := fun item => (item.1, (item.2 : Int))) listed)

/-! ## Layouts of entries -/

/-- The ways in which the instructions of the catalog are laid out. Branches are told
apart by the fields that their entries fill. -/
inductive Layout
  | register
  | literal
  | branch
  | zeroBranch
  | floatBranch
  | jump
  | trap
  | float
  | floatMove
  | bare
  deriving DecidableEq

/-- The layout of the instructions of a shape. -/
def Shape.layout : Shape → Layout
  | threeRegs | shiftByReg | shiftByAmount | twoSources | destination | source | link =>
    .register
  | immediate | upperImmediate | memory | floatMemory => .literal
  | branch => .branch
  | zeroBranch => .zeroBranch
  | floatBranch => .floatBranch
  | jump => .jump
  | trap => .trap
  | floatBinary | floatUnary | floatCompare => .float
  | floatMove => .floatMove
  | bare => .bare

/-- The settled fields of the instructions of a layout. -/
def Layout.settled : Layout → List Field
  | register => [.opcode, .rs, .rt, .rd, .shift, .funct]
  | literal => [.opcode, .rs, .rt, .immediate]
  | branch | zeroBranch | floatBranch => [.opcode, .rs, .rt]
  | jump => [.opcode]
  | trap => [.opcode, .code, .funct]
  | float | floatMove => [.opcode, .fmt, .ft, .fs, .fd, .funct]
  | bare => []

/-- The instructions that an entry forms from operands at `pc`, by layout. -/
inductive Entry.Forms (entry : Entry) (pc : UInt32) : List (Operand Label) → Symbolic → Prop
  | register {operands : List (Operand Label)} (shaped : entry.shape.layout = .register)
      (rs rt rd shift : Nat) :
    Forms entry pc operands (.register Opcode.special rs rt rd shift entry.funct)
  | literal {operands : List (Operand Label)} (shaped : entry.shape.layout = .literal)
      (rs rt : Nat) (value : Int) :
    Forms entry pc operands (.literal entry.opcode rs rt value)
  | branch (shaped : entry.shape.layout = .branch) (rs rt : Reg) (label : Label) :
    Forms entry pc [.reg rs, .reg rt, .label label] (.branch entry.opcode rs.id rt.id label)
  | zeroBranch (shaped : entry.shape.layout = .zeroBranch) (rs : Reg) (label : Label) :
    Forms entry pc [.reg rs, .label label] (.branch entry.opcode rs.id entry.selector label)
  | floatBranch (shaped : entry.shape.layout = .floatBranch) (label : Label) :
    Forms entry pc [.label label] (.branch entry.opcode Cop1.branch entry.selector label)
  | jumpToAddress (shaped : entry.shape.layout = .jump) {address : Int} {index : Nat}
      (found : jumpIndex (UInt32.ofNat address.toNat) pc = .ok index) :
    Forms entry pc [.number address] (.jump entry.opcode (.index index))
  | jumpToLabel (shaped : entry.shape.layout = .jump) (label : Label) :
    Forms entry pc [.label label] (.jumpToLabel entry.opcode label)
  | trap {operands : List (Operand Label)} (shaped : entry.shape.layout = .trap) (code : Nat) :
    Forms entry pc operands (.trap Opcode.special code entry.funct)
  | float {operands : List (Operand Label)} (shaped : entry.shape.layout = .float)
      (ft fs fd : Nat) :
    Forms entry pc operands (.float Opcode.cop1 entry.selector ft fs fd entry.funct)
  | floatMove {operands : List (Operand Label)} (shaped : entry.shape.layout = .floatMove)
      (rt fs : Nat) :
    Forms entry pc operands (.float Opcode.cop1 entry.selector rt fs 0 0)
  | bare (shaped : entry.shape.layout = .bare) : Forms entry pc [] .nop

theorem Entry.literal_of_signed {entry : Entry} {rs rt : Nat} {value : Int} {instr : Symbolic}
    (formed : (entry.signed value).map (Symbolic.literal entry.opcode rs rt) = .ok instr) :
    instr = .literal entry.opcode rs rt value := by
  obtain ⟨number, signed, rfl⟩ := map_eq_ok_iff.mp formed
  rw [Entry.signed] at signed
  split at signed
  · cases signed
    rfl
  · cases signed

theorem Entry.forms_of_instruction {entry : Entry} {pc : UInt32}
    {operands : List (Operand Label)} {instr : Symbolic}
    (accepted : entry.instruction pc operands = .ok instr) :
    entry.Forms pc operands instr := by
  by_cases taken : entry.shape.Takes operands
  · obtain ⟨mnemonic, shape, opcode, funct, selector⟩ := entry
    cases taken with
    | threeRegs | shiftByReg | twoSources | destination | source | link | linkTo =>
        cases accepted
        exact .register rfl ..
    | shiftByAmount rd rt amount =>
        unfold Entry.instruction at accepted
        dsimp only at accepted
        split at accepted
        · cases accepted
          exact .register rfl ..
        · cases accepted
    | immediate | upperImmediate | memory | floatMemory =>
        rw [literal_of_signed accepted]
        exact .literal rfl ..
    | branch rs rt target =>
        cases accepted
        exact .branch rfl ..
    | zeroBranch rs target =>
        cases accepted
        exact .zeroBranch rfl ..
    | floatBranch target =>
        cases accepted
        exact .floatBranch rfl ..
    | jumpToAddress address =>
        unfold Entry.instruction at accepted
        dsimp only at accepted
        split at accepted
        · rw [mapError_eq_ok_iff, Symbolic.jumpToAddress, bind_eq_ok_iff] at accepted
          obtain ⟨index, found, formed⟩ := accepted
          cases formed
          exact .jumpToAddress rfl found
        · cases accepted
    | jumpToLabel target =>
        cases accepted
        exact .jumpToLabel rfl ..
    | trap =>
        cases accepted
        exact .trap rfl ..
    | trapCode code =>
        unfold Entry.instruction at accepted
        dsimp only at accepted
        split at accepted
        · cases accepted
          exact .trap rfl ..
        · cases accepted
    | floatBinary | floatUnary | floatCompare =>
        cases accepted
        exact .float rfl ..
    | floatMove rt fs =>
        cases accepted
        exact .floatMove rfl ..
    | bare =>
        cases accepted
        exact .bare rfl
  · rw [Entry.instruction_eq_mismatch taken] at accepted
    cases accepted

/-- The layout of an entry fixes which fields of its instructions are settled. -/
theorem Entry.Forms.map_fst_settled {entry : Entry} {pc : UInt32}
    {operands : List (Operand Label)} {instr : Symbolic} (formed : entry.Forms pc operands instr) :
    instr.settled.map Prod.fst = entry.shape.layout.settled := by
  cases formed with
  | register shaped | literal shaped | branch shaped | zeroBranch shaped | floatBranch shaped
  | jumpToAddress shaped | jumpToLabel shaped | trap shaped | float shaped | floatMove shaped
  | bare shaped =>
      rw [shaped]
      rfl

/-- The settled fields of an instruction can be read off its word, once its layout
is known. -/
theorem Entry.Forms.settled_eq {entry : Entry} {pc : UInt32} {operands : List (Operand Label)}
    {instr : Symbolic} (formed : entry.Forms pc operands instr) {labels : LabelTable}
    {word : UInt32} (packed : (⟨pc, instr⟩ : Record).word labels = .ok word) :
    instr.settled = entry.shape.layout.settled.map fun field => (field, field.read word) := by
  rw [← formed.map_fst_settled, List.map_map]
  calc instr.settled
      = instr.settled.map id := (List.map_id _).symm
    _ = instr.settled.map fun item => (item.1, item.1.read word) := by
        apply List.map_congr_left
        intro item listed
        exact Prod.ext rfl (Record.read_of_settled packed listed).symm

/-! ## Operations -/

/-- What selects the operation of a word with the given fields. Three primary
opcodes leave the choice to other fields. -/
def operationOf (opcode rs rt funct : Nat) : Nat × Nat × Nat :=
  if opcode = Opcode.special then (opcode, 0, funct)
  else if opcode = Opcode.regimm then (opcode, rt, 0)
  else if opcode = Opcode.cop1 then (opcode, rs, if rs = Cop1.branch then rt else funct)
  else (opcode, 0, 0)

/-- What selects the operation of a word. -/
def wordOperation (word : UInt32) : Nat × Nat × Nat :=
  operationOf (Field.opcode.read word) (Field.rs.read word) (Field.rt.read word)
    (Field.funct.read word)

/-- What selects the operation of an entry. -/
def Entry.operation (entry : Entry) : Nat × Nat × Nat :=
  match entry.shape.layout with
  | .zeroBranch => operationOf entry.opcode 0 entry.selector 0
  | .floatBranch => operationOf entry.opcode Cop1.branch entry.selector 0
  | .float | .floatMove => operationOf entry.opcode entry.selector 0 entry.funct
  | _ => operationOf entry.opcode 0 0 entry.funct

/-- The numbers of an entry fit its layout. -/
def Entry.isRegular (entry : Entry) : Bool :=
  match entry.shape.layout with
  | .register | .trap => entry.opcode = Opcode.special
  | .literal | .branch | .jump => entry.opcode ∉ [Opcode.special, Opcode.regimm, Opcode.cop1]
  | .zeroBranch => entry.opcode ≠ Opcode.special ∧ entry.opcode ≠ Opcode.cop1
  | .floatBranch => entry.opcode = Opcode.cop1
  | .float => entry.opcode = Opcode.cop1 ∧ entry.selector ≠ Cop1.branch
  | .floatMove => entry.opcode = Opcode.cop1 ∧ entry.selector ≠ Cop1.branch ∧ entry.funct = 0
  | .bare => entry.opcode = Opcode.special ∧ entry.funct = 0

theorem Entry.isRegular_of_mem : ∀ entry ∈ Entry.table, entry.isRegular := by
  decide

/-- No two entries select the same operation, but for the instruction that does
nothing and the shift to the left. -/
theorem Entry.eq_of_operation : ∀ first ∈ Entry.table, ∀ second ∈ Entry.table,
    first.operation = second.operation →
      first = second ∨ (first.mnemonic = "nop" ∧ second.mnemonic = "sll") ∨
        (first.mnemonic = "sll" ∧ second.mnemonic = "nop") := by
  decide +kernel

theorem operationOf_primary {opcode : Nat}
    (primary : opcode ∉ [Opcode.special, Opcode.regimm, Opcode.cop1]) (rs rt funct : Nat) :
    operationOf opcode rs rt funct = (opcode, 0, 0) := by
  simp only [List.mem_cons, List.not_mem_nil, or_false, not_or] at primary
  rw [operationOf, if_neg primary.1, if_neg primary.2.1, if_neg primary.2.2]

theorem operationOf_cop1 {selector : Nat} (operates : selector ≠ Cop1.branch)
    (rt funct : Nat) : operationOf Opcode.cop1 selector rt funct =
      (Opcode.cop1, selector, funct) := by
  rw [operationOf, if_neg (by decide), if_neg (by decide), if_pos rfl, if_neg operates]

/-- The word of an instruction selects the operation of its entry. -/
theorem Entry.Forms.wordOperation_eq {entry : Entry} (regular : entry.isRegular) {pc : UInt32}
    {operands : List (Operand Label)} {instr : Symbolic} (formed : entry.Forms pc operands instr)
    {labels : LabelTable} {word : UInt32}
    (packed : (⟨pc, instr⟩ : Record).word labels = .ok word) :
    wordOperation word = entry.operation := by
  have read {field : Field} {value : Nat} (listed : (field, value) ∈ instr.settled) :
      field.read word = value := Record.read_of_settled packed listed
  have special (opcode : Field.opcode.read word = Opcode.special)
      (funct : Field.funct.read word = entry.funct) (fits : entry.opcode = Opcode.special) :
      wordOperation word = operationOf entry.opcode 0 0 entry.funct := by
    rw [wordOperation, opcode, funct, fits]
    rfl
  have primary (opcode : Field.opcode.read word = entry.opcode)
      (fits : entry.opcode ∉ [Opcode.special, Opcode.regimm, Opcode.cop1]) :
      wordOperation word = operationOf entry.opcode 0 0 entry.funct := by
    rw [wordOperation, opcode, operationOf_primary fits, operationOf_primary fits]
  rw [Entry.isRegular] at regular
  rw [Entry.operation]
  cases formed with
  | register shaped | trap shaped =>
      simp only [shaped, decide_eq_true_eq] at regular ⊢
      exact special (read (by simp [Symbolic.settled])) (read (by simp [Symbolic.settled])) regular
  | literal shaped =>
      simp only [shaped, decide_eq_true_eq] at regular ⊢
      exact primary (read (by simp [Symbolic.settled, Symbolic.literal])) regular
  | branch shaped =>
      simp only [shaped, decide_eq_true_eq] at regular ⊢
      exact primary (read (by simp [Symbolic.settled, Symbolic.branch])) regular
  | jumpToAddress shaped | jumpToLabel shaped =>
      simp only [shaped, decide_eq_true_eq] at regular ⊢
      exact primary (read (by simp [Symbolic.settled, Symbolic.jumpToLabel])) regular
  | zeroBranch shaped rs label =>
      have opcode : Field.opcode.read word = entry.opcode :=
        read (by simp [Symbolic.settled, Symbolic.branch])
      have selector : Field.rt.read word = entry.selector :=
        read (by simp [Symbolic.settled, Symbolic.branch])
      simp only [shaped, decide_eq_true_eq] at regular ⊢
      simp [wordOperation, operationOf, opcode, selector, regular]
  | floatBranch shaped label =>
      have opcode : Field.opcode.read word = entry.opcode :=
        read (by simp [Symbolic.settled, Symbolic.branch])
      have direction : Field.rs.read word = Cop1.branch :=
        read (by simp [Symbolic.settled, Symbolic.branch])
      have selector : Field.rt.read word = entry.selector :=
        read (by simp [Symbolic.settled, Symbolic.branch])
      simp only [shaped, decide_eq_true_eq] at regular ⊢
      simp [wordOperation, operationOf, opcode, direction, selector, regular]
  | float shaped ft fs fd =>
      have opcode : Field.opcode.read word = Opcode.cop1 := read (by simp [Symbolic.settled])
      have fmt : Field.fmt.read word = entry.selector := read (by simp [Symbolic.settled])
      have selector : Field.rs.read word = entry.selector := fmt
      have funct : Field.funct.read word = entry.funct := read (by simp [Symbolic.settled])
      simp only [shaped, decide_eq_true_eq] at regular ⊢
      rw [wordOperation, opcode, selector, funct, regular.1, operationOf_cop1 regular.2,
        operationOf_cop1 regular.2]
  | floatMove shaped rt fs =>
      have opcode : Field.opcode.read word = Opcode.cop1 := read (by simp [Symbolic.settled])
      have fmt : Field.fmt.read word = entry.selector := read (by simp [Symbolic.settled])
      have selector : Field.rs.read word = entry.selector := fmt
      have funct : Field.funct.read word = 0 := read (by simp [Symbolic.settled])
      simp only [shaped, decide_eq_true_eq] at regular ⊢
      rw [wordOperation, opcode, selector, funct, regular.1, regular.2.2,
        operationOf_cop1 regular.2.1, operationOf_cop1 regular.2.1]
  | bare shaped =>
      cases packed
      simp only [shaped, decide_eq_true_eq] at regular ⊢
      rw [regular.1, regular.2]
      rfl

/-! ## Targets -/

/-- The address that an operand names as a target. -/
def Operand.target? (labels : LabelTable) : Operand Label → Option UInt32
  | .number address => some (UInt32.ofNat address.toNat)
  | .label target => (labels.address target).toOption
  | .reg _ | .freg _ | .memory .. => none

/-- The target address of a branch or a jump, which its last operand names. -/
def Entry.target? (entry : Entry) (labels : LabelTable) (operands : List (Operand Label)) :
    Option UInt32 :=
  match entry.shape.layout with
  | .branch | .zeroBranch | .floatBranch | .jump =>
    operands.getLast?.bind (Operand.target? labels)
  | _ => none

/-- Where the machine goes from a word at `pc`, if the layout is one of branches or
jumps. -/
def Layout.target? (pc word : UInt32) : Layout → Option UInt32
  | branch | zeroBranch | floatBranch => some (branchTarget pc word)
  | jump => some (jumpTarget pc word)
  | _ => none

theorem Entry.Forms.target?_eq {entry : Entry} {pc : UInt32} {operands : List (Operand Label)}
    {instr : Symbolic} (formed : entry.Forms pc operands instr) {labels : LabelTable}
    {word : UInt32} (packed : (⟨pc, instr⟩ : Record).word labels = .ok word) :
    entry.target? labels operands = entry.shape.layout.target? pc word := by
  have reaches {label : Label} (waits : instr.label? = some label) :=
    Record.refersTo_of_word packed waits
  rw [Entry.target?]
  cases formed with
  | branch shaped | zeroBranch shaped | floatBranch shaped | jumpToLabel shaped =>
      obtain ⟨address, placed, rfl⟩ := reaches rfl
      rw [shaped]
      exact toOption_eq_some_iff.mpr placed
  | jumpToAddress shaped found =>
      rw [shaped]
      exact congrArg some (jumpTarget_eq found packed).symm
  | register shaped | literal shaped | trap shaped | float shaped | floatMove shaped
  | bare shaped =>
      rw [shaped]
      rfl

/-! ## Two instructions with one word -/

/-- A request for a catalog entry that is not refused appends the instruction that
the entry forms. -/
theorem Session.instruction_of_perform {session : Session} {entry : Entry}
    {operands : List (Operand Label)} {instr : Symbolic}
    (accepted : session.perform (.entry entry operands) = (session.emit instr, .ok ())) :
    entry.instruction session.pc operands = .ok instr := by
  rw [Session.perform] at accepted
  cases outcome : entry.instruction session.pc operands with
  | error error =>
      rw [outcome] at accepted
      have refused := congrArg Prod.snd accepted
      cases refused
  | ok other =>
      rw [outcome] at accepted
      have sameLog : session.log.push ⟨session.pc, other⟩ = session.log.push ⟨session.pc, instr⟩ :=
        congrArg (·.1.log) accepted
      cases (Array.push_eq_push.mp sameLog).1
      rfl

theorem Entry.eq_of_mnemonic : ∀ entry ∈ Entry.table,
    (entry.mnemonic = "nop" → entry = ⟨"nop", .bare, Opcode.special, 0, 0⟩) ∧
      (entry.mnemonic = "sll" → entry = ⟨"sll", .shiftByAmount, Opcode.special, 0, 0⟩) := by
  decide

/-- The word of the instruction that does nothing is zero. -/
theorem word_of_nop {entry : Entry} (listed : entry ∈ Entry.table)
    (named : entry.mnemonic = "nop") {pc : UInt32} {operands : List (Operand Label)}
    {instr : Symbolic} (accepted : entry.instruction pc operands = .ok instr)
    {labels : LabelTable} {word : UInt32}
    (packed : (⟨pc, instr⟩ : Record).word labels = .ok word) : word = 0 := by
  rw [(Entry.eq_of_mnemonic entry listed).1 named] at accepted
  cases Entry.forms_of_instruction accepted with
  | bare shaped =>
      cases packed
      rfl
  | _ => contradiction

/-- A shift to the left whose word is zero shifts the zero register by zero. -/
theorem operands_of_sll {entry : Entry} (listed : entry ∈ Entry.table)
    (named : entry.mnemonic = "sll") {pc : UInt32} {operands : List (Operand Label)}
    {instr : Symbolic} (accepted : entry.instruction pc operands = .ok instr)
    {labels : LabelTable} (packed : (⟨pc, instr⟩ : Record).word labels = .ok 0) :
    operands = [.reg .zero, .reg .zero, .number 0] := by
  rw [(Entry.eq_of_mnemonic entry listed).2 named] at accepted
  by_cases taken : Shape.shiftByAmount.Takes operands
  · cases taken with
    | shiftByAmount rd rt amount =>
        unfold Entry.instruction at accepted
        dsimp only at accepted
        split at accepted
        · rename_i fits
          cases accepted
          have target : Field.rd.read 0 = rd.id := Record.read_of_settled packed
            (by simp [Symbolic.special, Symbolic.settled])
          have shifted : Field.rt.read 0 = rt.id := Record.read_of_settled packed
            (by simp [Symbolic.special, Symbolic.settled])
          have distance : Field.shift.read 0 = amount.toNat := Record.read_of_settled packed
            (by simp [Symbolic.special, Symbolic.settled])
          have zeroTarget : rd = .zero := congrArg Reg.mk (Fin.ext target.symm)
          have zeroShifted : rt = .zero := congrArg Reg.mk (Fin.ext shifted.symm)
          have zeroDistance : amount = 0 := by
            have nonnegative := fits.1
            have none : 0 = amount.toNat := distance
            omega
          rw [zeroTarget, zeroShifted, zeroDistance]
        · cases accepted
  · rw [Entry.instruction_eq_mismatch taken] at accepted
    cases accepted

/-- No two instructions of the catalog share a word. Two requests for catalog
entries that append instructions at the same place, where both instructions get the
same word from the same label table, name the same entry, and the instructions agree
in registers, shift amount or trap code, immediate modulo 2^16, and target address.
Only the instruction that does nothing has the word of another, the shift of the
zero register by zero. -/
theorem entry_eq_of_same_word {session : Session} {first second : Entry}
    (firstListed : first ∈ Entry.table) (secondListed : second ∈ Entry.table)
    {firstOperands secondOperands : List (Operand Label)} {firstInstr secondInstr : Symbolic}
    (firstAccepted :
      session.perform (.entry first firstOperands) = (session.emit firstInstr, .ok ()))
    (secondAccepted :
      session.perform (.entry second secondOperands) = (session.emit secondInstr, .ok ()))
    {labels : LabelTable} {word : UInt32}
    (firstWord : (⟨session.pc, firstInstr⟩ : Record).word labels = .ok word)
    (secondWord : (⟨session.pc, secondInstr⟩ : Record).word labels = .ok word) :
    (first = second ∧ firstInstr.settled = secondInstr.settled ∧
        first.target? labels firstOperands = second.target? labels secondOperands) ∨
      (first.mnemonic = "nop" ∧ second.mnemonic = "sll" ∧
        secondOperands = [.reg .zero, .reg .zero, .number 0]) ∨
      (first.mnemonic = "sll" ∧ firstOperands = [.reg .zero, .reg .zero, .number 0] ∧
        second.mnemonic = "nop") := by
  replace firstAccepted := Session.instruction_of_perform firstAccepted
  replace secondAccepted := Session.instruction_of_perform secondAccepted
  have firstFormed := Entry.forms_of_instruction firstAccepted
  have secondFormed := Entry.forms_of_instruction secondAccepted
  have sameOperation : first.operation = second.operation := by
    rw [← firstFormed.wordOperation_eq (Entry.isRegular_of_mem _ firstListed) firstWord,
      secondFormed.wordOperation_eq (Entry.isRegular_of_mem _ secondListed) secondWord]
  rcases Entry.eq_of_operation first firstListed second secondListed sameOperation with
    rfl | ⟨isNop, isShift⟩ | ⟨isShift, isNop⟩
  · left
    refine ⟨rfl, ?_, ?_⟩
    · rw [firstFormed.settled_eq firstWord, secondFormed.settled_eq secondWord]
    · rw [firstFormed.target?_eq firstWord, secondFormed.target?_eq secondWord]
  · cases word_of_nop firstListed isNop firstAccepted firstWord
    have zeros := operands_of_sll secondListed isShift secondAccepted secondWord
    exact .inr (.inl ⟨isNop, isShift, zeros⟩)
  · cases word_of_nop secondListed isNop secondAccepted secondWord
    have zeros := operands_of_sll firstListed isShift firstAccepted firstWord
    exact .inr (.inr ⟨isShift, zeros, isNop⟩)

/-- A jump to an address and a jump to a label at that address have the same word,
and they are instructions of one entry with one target. -/
theorem entry_eq_of_same_word_jump :
    let session := Session.new {}
    let entry : Entry := ⟨"j", .jump, Opcode.j, 0, 0⟩
    let labels : LabelTable := ⟨#[⟨none, some 0x100⟩]⟩
    entry ∈ Entry.table ∧
      session.perform (.entry entry [.number 0x100]) =
        (session.emit (.jump Opcode.j (.index 0x40)), .ok ()) ∧
      session.perform (.entry entry [.label ⟨0⟩]) =
        (session.emit (.jump Opcode.j (.label ⟨0⟩)), .ok ()) ∧
      (⟨session.pc, .jump Opcode.j (.index 0x40)⟩ : Record).word labels = .ok 0x08000040 ∧
      (⟨session.pc, .jump Opcode.j (.label ⟨0⟩)⟩ : Record).word labels = .ok 0x08000040 ∧
      entry.target? labels [.number 0x100] = entry.target? labels [.label ⟨0⟩] := by
  intro session entry labels
  have listed : entry ∈ Entry.table := by decide
  have toAddress : session.perform (.entry entry [.number 0x100]) =
      (session.emit (.jump Opcode.j (.index 0x40)), .ok ()) := by with_unfolding_all rfl
  have toLabel : session.perform (.entry entry [.label ⟨0⟩]) =
      (session.emit (.jump Opcode.j (.label ⟨0⟩)), .ok ()) := rfl
  have addressWord : (⟨session.pc, .jump Opcode.j (.index 0x40)⟩ : Record).word labels =
      .ok 0x08000040 := rfl
  have labelWord : (⟨session.pc, .jump Opcode.j (.label ⟨0⟩)⟩ : Record).word labels =
      .ok 0x08000040 := by with_unfolding_all rfl
  rcases entry_eq_of_same_word listed listed toAddress toLabel addressWord labelWord with
    ⟨-, -, sameTarget⟩ | ⟨isNop, -⟩ | ⟨isShift, -⟩
  · exact ⟨listed, toAddress, toLabel, addressWord, labelWord, sameTarget⟩
  · exact absurd isNop (by decide)
  · exact absurd isShift (by decide)

end Mips32
