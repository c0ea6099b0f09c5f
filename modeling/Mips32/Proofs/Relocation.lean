/-
# Moving a session to another start

A session that is moved has the same instructions and labels, with a fixed distance
added to every address, around the end of the address space. Moving commutes with every
request but a jump to a literal address, so two runs without such jumps from two starts
stay a fixed distance apart. What the runs report is then the same, save for the address
in a refusal to place a label twice. A record holds no trace of the distance unless it
stores the address of a label: the distance of a branch is a difference of two addresses
that have moved alike.

A jump to a literal address is checked against the current address at once, so it does
depend on the start, unless the session is moved by no distance.
-/
import Mips32.Proofs.History
import Mips32.Proofs.Shape

namespace Mips32

/-! ## Labels -/

/-- The slot of a label that is moved. -/
def Slot.move (distance : UInt32) (slot : Slot) : Slot :=
  ⟨slot.name, slot.address.map (· + distance)⟩

/-- The refusal to place a label twice reports an address, which is moved. Every other
error stays as it is. -/
def AssemblyError.move (distance : UInt32) : AssemblyError → AssemblyError
  | labelPlacedTwice label address => labelPlacedTwice label (address + distance)
  | error => error

namespace LabelTable

/-- The table of labels that are moved. -/
def move (distance : UInt32) (table : LabelTable) : LabelTable :=
  ⟨table.slots.map (Slot.move distance)⟩

theorem slot?_move (distance : UInt32) (table : LabelTable) (label : Label) :
    (table.move distance).slot? label = (table.slot? label).map (Slot.move distance) := by
  simp [slot?, move]

theorem address_move (distance : UInt32) (table : LabelTable) (label : Label) :
    (table.move distance).address label = (table.address label).map (· + distance) := by
  rw [address, address, slot?_move]
  cases table.slot? label with
  | none => rfl
  | some slot =>
      obtain ⟨name, address⟩ := slot
      cases address <;> rfl

theorem create_move (distance : UInt32) (table : LabelTable) (name : Option String) :
    (table.move distance).create name = (table.create name).move distance := by
  simp [create, move, Slot.move]

/-- A label that is moved is placed at the moved address, or refused as before. -/
theorem bind_move (distance : UInt32) (table : LabelTable) (label : Label) (pc : UInt32) :
    (table.move distance).bind label (pc + distance).toNat =
      ((table.bind label pc.toNat).map (move distance)).mapError
        (AssemblyError.move distance) := by
  rw [bind, bind, if_pos (isUnsigned32_toNat _), if_pos (isUnsigned32_toNat pc), slot?_move]
  cases table.slot? label with
  | none => rfl
  | some slot =>
      obtain ⟨name, address⟩ := slot
      cases address with
      | none =>
          show Except.ok (⟨_⟩ : LabelTable) = Except.ok ⟨_⟩
          rw [Array.map_setIfInBounds, Int.toNat_natCast, Int.toNat_natCast,
            UInt32.ofNat_toNat, UInt32.ofNat_toNat]
          rfl
      | some earlier => rfl

end LabelTable

/-! ## Instructions -/

/-- A refusal as a session that is moved reports it. -/
def EmissionError.move (distance : UInt32) : EmissionError → EmissionError
  | assembly error => assembly (error.move distance)
  | error => error

theorem EmissionError.move_zero (error : EmissionError) : error.move 0 = error := by
  cases error with
  | assembly error =>
      cases error with
      | labelPlacedTwice label address =>
          show assembly (.labelPlacedTwice label (address + 0)) = _
          rw [UInt32.add_zero]
      | _ => rfl
  | _ => rfl

theorem mapError_move_zero {α : Type} (outcome : Except EmissionError α) :
    outcome.mapError (EmissionError.move 0) = outcome := by
  cases outcome with
  | error error => exact congrArg Except.error error.move_zero
  | ok value => rfl

/-- A command other than a jump to a literal address gives the same instruction
everywhere. -/
theorem Command.exists_instruction {command : Command}
    (free : ¬ ∃ address, command = .j address ∨ command = .jal address) :
    ∃ instr, ∀ pc, command.instruction pc = .ok instr := by
  cases command with
  | j address => exact absurd ⟨address, .inl rfl⟩ free
  | jal address => exact absurd ⟨address, .inr rfl⟩ free
  | _ => exact ⟨_, fun _ => rfl⟩

/-- An entry other than a jump with a literal address gives the same instruction
everywhere, and a refusal that reports no address. -/
theorem Entry.instruction_move {entry : Entry} {operands : List (Operand Label)}
    (free : ¬ (entry.shape = .jump ∧ ∃ address, operands = [.number address]))
    (pc distance : UInt32) :
    entry.instruction (pc + distance) operands =
      (entry.instruction pc operands).mapError (EmissionError.move distance) := by
  by_cases taken : entry.shape.Takes operands
  · obtain ⟨mnemonic, shape, opcode, funct, selector⟩ := entry
    cases taken with
    | jumpToAddress address => exact absurd ⟨rfl, address, rfl⟩ free
    | immediate | upperImmediate | memory | floatMemory =>
        unfold Entry.instruction Entry.signed
        dsimp only
        split <;> rfl
    | shiftByAmount | trapCode =>
        unfold Entry.instruction
        dsimp only
        split <;> rfl
    | _ => rfl
  · rw [entry.instruction_eq_mismatch taken, entry.instruction_eq_mismatch taken]
    rfl

/-! ## Sessions -/

/-- An instruction at an address that is moved. -/
def Record.move (distance : UInt32) (record : Record) : Record :=
  ⟨record.pc + distance, record.instr⟩

/-- A request for a jump to a literal address. -/
def Request.JumpsToAddress : Request → Prop
  | .command asked => ∃ address, asked = .j address ∨ asked = .jal address
  | .entry item operands => item.shape = .jump ∧ ∃ address, operands = [.number address]
  | .create _ | .place _ | .emit _ | .pseudo _ => False

namespace Session

/-- A session whose start is moved, in any byte order. -/
def move (distance : UInt32) (order : ByteOrder) (session : Session) : Session where
  config := ⟨session.config.start + distance, order⟩
  pc := session.pc + distance
  log := session.log.map (Record.move distance)
  labels := session.labels.move distance

variable (session : Session) (distance : UInt32) (order : ByteOrder)

theorem log_move :
    (session.move distance order).log = session.log.map (Record.move distance) := rfl

theorem emit_move (instr : Symbolic) :
    (session.move distance order).emit instr = (session.emit instr).move distance order := by
  have pc : session.pc + distance + 4 = session.pc + 4 + distance := by
    rw [UInt32.add_assoc, UInt32.add_comm distance, UInt32.add_assoc]
  simp [emit, move, Record.move, pc]

theorem emitAll_move (instrs : List Symbolic) :
    (session.move distance order).emitAll instrs =
      (session.emitAll instrs).move distance order := by
  induction instrs generalizing session with
  | nil => rfl
  | cons instr rest ih => rw [emitAll_cons, emitAll_cons, emit_move, ih]

theorem place_move (label : Label) :
    (session.move distance order).place label =
      ((session.place label).map (move distance order)).mapError
        (AssemblyError.move distance) := by
  have bound := session.labels.bind_move distance label session.pc
  rw [place, place]
  show ((session.labels.move distance).bind label (session.pc + distance).toNat >>= _) = _
  rw [bound]
  cases session.labels.bind label session.pc.toNat <;> rfl

theorem append_move (outcome : Except EmissionError (List Symbolic)) :
    (session.move distance order).append (outcome.mapError (EmissionError.move distance)) =
      Prod.map (move distance order) (Except.mapError (EmissionError.move distance))
        (session.append outcome) := by
  cases outcome with
  | error error => rfl
  | ok instrs => exact Prod.ext (session.emitAll_move distance order instrs) rfl

variable {distance}

/-- A session that is moved performs a request as the session itself does, and what
comes of it is moved. -/
theorem perform_move {request : Request} (free : request.JumpsToAddress → distance = 0) :
    (session.move distance order).perform request =
      Prod.map (move distance order) (Except.mapError (EmissionError.move distance))
        (session.perform request) := by
  cases request with
  | create name =>
      have created := session.labels.create_move distance name
      rw [perform, perform, create, create, move, created]
      rfl
  | place label =>
      rw [perform, perform, place_move]
      cases session.place label <;> rfl
  | emit instr => exact session.append_move distance order (.ok [instr])
  | command command =>
      rw [perform, perform, ← append_move]
      congr 1
      show ((command.instruction (session.pc + distance)).mapError _).map _ = _
      by_cases jumps : ∃ address, command = .j address ∨ command = .jal address
      · obtain rfl := free jumps
        rw [UInt32.add_zero, mapError_move_zero]
      · obtain ⟨instr, formed⟩ := Command.exists_instruction jumps
        rw [formed, formed]
        rfl
  | pseudo pseudo => exact session.append_move distance order (.ok pseudo.expand)
  | entry entry operands =>
      rw [perform, perform, ← append_move]
      congr 1
      show (entry.instruction (session.pc + distance) operands).map _ = _
      by_cases jumps : entry.shape = .jump ∧ ∃ address, operands = [.number address]
      · obtain rfl := free jumps
        rw [UInt32.add_zero, mapError_move_zero]
      · rw [Entry.instruction_move jumps]
        cases entry.instruction session.pc operands <;> rfl

/-! ## Whole runs -/

/-- What each request of a run reports. -/
def outcomes (session : Session) : List Request → List (Except EmissionError Unit)
  | [] => []
  | request :: rest =>
    (session.perform request).2 :: (session.perform request).1.outcomes rest

theorem run_move {requests : List Request}
    (free : ∀ request ∈ requests, request.JumpsToAddress → distance = 0) :
    (session.move distance order).run requests = (session.run requests).move distance order := by
  induction requests generalizing session with
  | nil => rfl
  | cons request rest ih =>
      rw [List.forall_mem_cons] at free
      rw [run_cons, run_cons, perform_move session order free.1]
      exact ih _ free.2

theorem outcomes_move {requests : List Request}
    (free : ∀ request ∈ requests, request.JumpsToAddress → distance = 0) :
    (session.move distance order).outcomes requests =
      (session.outcomes requests).map (Except.mapError (EmissionError.move distance)) := by
  induction requests generalizing session with
  | nil => rfl
  | cons request rest ih =>
      rw [List.forall_mem_cons] at free
      rw [outcomes, outcomes, perform_move session order free.1]
      exact congrArg (List.cons _) (ih _ free.2)

theorem new_eq_move (first second : Config) :
    Session.new second = (Session.new first).move (second.start - first.start) second.order := by
  have start : first.start + (second.start - first.start) = second.start := by
    rw [UInt32.add_comm, UInt32.sub_add_cancel]
  simp [new, move, LabelTable.empty, LabelTable.move, start]

end Session

/-! ## Words -/

/-- A branch and its target that are moved alike stay equally far apart. -/
theorem branchOffset_add (target pc distance : UInt32) :
    branchOffset (target + distance) (pc + distance) = branchOffset target pc := by
  have same : (((target + distance).toNat : Int) - (pc + distance).toNat - 4).bmod 0x100000000 =
      ((target.toNat : Int) - pc.toNat - 4).bmod 0x100000000 := by
    rw [← Int.emod_bmod, ← Int.emod_bmod ((target.toNat : Int) - pc.toNat - 4)]
    congr 1
    rw [UInt32.toNat_add, UInt32.toNat_add]
    omega
  rw [branchOffset, branchOffset, same]

/-- An instruction that stores the address of a label or a part of it. -/
def Symbolic.StoresAddress : Symbolic → Prop
  | .jump _ (.label _) | .immediate _ _ _ (.high _) | .immediate _ _ _ (.low _) => True
  | _ => False

/-- An instruction that stores no address is resolved alike wherever it is moved. -/
theorem Symbolic.resolve_move {instr : Symbolic} (relative : ¬ instr.StoresAddress)
    (distance pc : UInt32) (labels : LabelTable) :
    instr.resolve (pc + distance) (labels.move distance) = instr.resolve pc labels := by
  cases instr with
  | immediate opcode rs rt value =>
      cases value with
      | literal value => rfl
      | branch label =>
          rw [Symbolic.resolve, Symbolic.resolve, Immediate.resolve, Immediate.resolve,
            LabelTable.address_move]
          cases labels.address label with
          | error error => rfl
          | ok address =>
              show (branchOffset (address + distance) (pc + distance) >>= _) = _
              rw [branchOffset_add]
              rfl
      | high label | low label => exact absurd trivial relative
  | jump opcode target =>
      cases target with
      | index position => rfl
      | label label => exact absurd trivial relative
  | register | trap | float | data | nop => rfl

theorem Record.word_move {record : Record} (relative : ¬ record.instr.StoresAddress)
    (distance : UInt32) (labels : LabelTable) :
    (record.move distance).word (labels.move distance) = record.word labels := by
  rw [Record.word, Record.word]
  show (record.instr.resolve (record.pc + distance) (labels.move distance) >>= _) = _
  rw [Symbolic.resolve_move relative]

/-- Requests that ask for no jump to a literal address can be run from any start. From
two starts, each of them is performed in both runs or refused in both, for the same
reason, where the address at which a label was placed before is moved by the distance of
the starts. Both logs hold the same instructions, and a record that stores no address
has the same word or the same error in both. -/
theorem Session.run_position_independent {requests : List Request}
    (free : ∀ request ∈ requests, ¬ request.JumpsToAddress) (first second : Config) :
    let here := (Session.new first).run requests
    let there := (Session.new second).run requests
    (Session.new second).outcomes requests =
        ((Session.new first).outcomes requests).map
          (Except.mapError (EmissionError.move (second.start - first.start))) ∧
      there.log.toList.map Record.instr = here.log.toList.map Record.instr ∧
      ∀ (index : Nat) (early late : Record), here.log[index]? = some early →
        there.log[index]? = some late → ¬ early.instr.StoresAddress →
        late.word there.labels = early.word here.labels := by
  intro here there
  have unjumping : ∀ request ∈ requests,
      request.JumpsToAddress → second.start - first.start = 0 :=
    fun request listed jumps => absurd jumps (free request listed)
  have moved : there = here.move (second.start - first.start) second.order := by
    show (Session.new second).run requests = _
    rw [new_eq_move first second, run_move _ _ unjumping]
  refine ⟨?_, ?_, ?_⟩
  · rw [new_eq_move first second, outcomes_move _ _ unjumping]
  · rw [moved, log_move, Array.toList_map, List.map_map]
    rfl
  · intro index early late logged loggedThere relative
    rw [moved, log_move, Array.getElem?_map, logged] at loggedThere
    cases loggedThere
    rw [moved]
    exact Record.word_move relative ..

/-- A branch across the end of the address space, and its twin from an odd start. Both
runs refuse to place the label a second time. -/
theorem Session.run_position_independent_around :
    let requests : List Request :=
      [.create none, .command (.beq .zero .zero ⟨0⟩), .emit .nop, .place ⟨0⟩, .place ⟨0⟩]
    let here := (Session.new ⟨0xFFFFFFF8, .little⟩).run requests
    let there := (Session.new ⟨3, .big⟩).run requests
    (∀ request ∈ requests, ¬ request.JumpsToAddress) ∧
      (Session.new ⟨0xFFFFFFF8, .little⟩).outcomes requests =
        [.ok (), .ok (), .ok (), .ok (), .error (.assembly (.labelPlacedTwice ⟨0⟩ 0))] ∧
      (Session.new ⟨3, .big⟩).outcomes requests =
        [.ok (), .ok (), .ok (), .ok (), .error (.assembly (.labelPlacedTwice ⟨0⟩ 11))] ∧
      Record.word ⟨0xFFFFFFF8, .branch Opcode.beq 0 0 ⟨0⟩⟩ here.labels = .ok 0x10000001 ∧
      Record.word ⟨3, .branch Opcode.beq 0 0 ⟨0⟩⟩ there.labels = .ok 0x10000001 := by
  intro requests here there
  have free : ∀ request ∈ requests, ¬ request.JumpsToAddress := by
    simp [requests, Request.JumpsToAddress]
  have reported : (Session.new ⟨0xFFFFFFF8, .little⟩).outcomes requests =
      [.ok (), .ok (), .ok (), .ok (), .error (.assembly (.labelPlacedTwice ⟨0⟩ 0))] := rfl
  have packed : Record.word ⟨0xFFFFFFF8, .branch Opcode.beq 0 0 ⟨0⟩⟩ here.labels =
      .ok 0x10000001 := toOption_eq_some_iff.mp (by decide +kernel)
  have alike := run_position_independent free ⟨0xFFFFFFF8, .little⟩ ⟨3, .big⟩
  have reportedThere := alike.1
  rw [reported] at reportedThere
  have packedThere := alike.2.2 0 ⟨0xFFFFFFF8, .branch Opcode.beq 0 0 ⟨0⟩⟩
    ⟨3, .branch Opcode.beq 0 0 ⟨0⟩⟩ (by decide +kernel) (by decide +kernel) id
  exact ⟨free, reported, reportedThere, packed, packedThere.trans packed⟩

end Mips32
