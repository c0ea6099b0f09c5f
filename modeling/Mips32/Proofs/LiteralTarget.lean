/-
# Targets given as an address or as a label

A jump to a literal address is checked when it is asked for, against the address that the
session has reached. A jump to a label is checked when the session is finished, against
the address in its record, by which time the label may have been placed before or after
the jump. Both checks are the same: if the label ends up at the literal address, the two
jumps have the same word, or the one is refused at once for the very error with which the
other fails at the end. Loading an address is never refused, and gives the same two words
either way.
-/
import Mips32.Proofs.PseudoMeaning

namespace Mips32

/-! ## Records -/

/-- Resolving a jump to a label that has an address makes the check that a jump to that
address makes at once. -/
theorem resolve_jumpToLabel {labels : LabelTable} {label : Label} {address : UInt32}
    (placed : labels.address label = .ok address) (opcode : Nat) (pc : UInt32) :
    (Symbolic.jumpToLabel opcode label).resolve pc labels =
      (jumpIndex address pc).map (.jump opcode) := by
  show (labels.address label >>= fun target => jumpIndex target pc) >>= _ = _
  rw [placed]
  rfl

/-- A jump to an address that passes the check has a word, whatever the labels are. -/
theorem exists_word_jumpToAddress {opcode : Nat} (code : Field.opcode.Accepts opcode)
    {address pc : UInt32} {instr : Symbolic}
    (formed : Symbolic.jumpToAddress opcode address pc = .ok instr) (labels : LabelTable) :
    ∃ word, (⟨pc, instr⟩ : Record).word labels = .ok word := by
  have proper := Symbolic.proper_jumpToAddress code formed
  obtain ⟨index, found, ⟨rfl⟩⟩ := bind_eq_ok_iff.mp formed
  apply Record.exists_word proper rfl
  simp [Concrete.fields]

/-- A jump to a label has the word of the jump to its address. -/
theorem word_jumpToLabel {labels : LabelTable} {label : Label} {address : UInt32}
    (placed : labels.address label = .ok address) {opcode : Nat} {pc : UInt32}
    {instr : Symbolic} (formed : Symbolic.jumpToAddress opcode address pc = .ok instr)
    (others : LabelTable) :
    (⟨pc, .jumpToLabel opcode label⟩ : Record).word labels =
      (⟨pc, instr⟩ : Record).word others := by
  obtain ⟨index, found, ⟨rfl⟩⟩ := bind_eq_ok_iff.mp formed
  rw [Record.word, resolve_jumpToLabel placed, found]
  rfl

/-- An immediate that stands for a number that fits has the word of this number. -/
theorem exists_word_immediate_and_literal {pc : UInt32} {labels : LabelTable} {opcode : Nat}
    (code : Field.opcode.Accepts opcode) (rs rt : Reg) {value : Immediate} {number : Int}
    (resolved : value.resolve pc labels = .ok number)
    (accepted : Field.immediate.Accepts number) (others : LabelTable) :
    ∃ word, (⟨pc, .literal opcode rs.id rt.id number⟩ : Record).word others = .ok word ∧
      (⟨pc, .immediate opcode rs.id rt.id value⟩ : Record).word labels = .ok word := by
  obtain ⟨word, packed⟩ := Record.exists_word_immediate code rs rt resolved accepted
  have same : (⟨pc, .literal opcode rs.id rt.id number⟩ : Record).word others =
      (⟨pc, .immediate opcode rs.id rt.id value⟩ : Record).word labels := by
    show _ = (value.resolve pc labels >>= _) >>= _
    rw [resolved]
    rfl
  exact ⟨word, same.trans packed, packed⟩

/-! ## Sessions -/

namespace Session

/-- The record at a position has a word in both sessions, and it is the same. -/
def SameWordAt (here there : Session) (index : Nat) : Prop :=
  ∃ first second word, here.log[index]? = some first ∧ there.log[index]? = some second ∧
    first.word here.labels = .ok word ∧ second.word there.labels = .ok word

/-- Instructions that were appended stay in the log behind what was there before. -/
theorem getElem?_log_emitAll_run (session : Session) (instrs : List Symbolic)
    (more : List Request) (index : Nat) {record : Record}
    (listed : (recordsFrom session.pc instrs)[index]? = some record) :
    ((session.emitAll instrs).run more).log[session.log.size + index]? = some record := by
  have inside : index < (recordsFrom session.pc instrs).length :=
    (List.getElem?_eq_some_iff.mp listed).1
  obtain ⟨added, logged⟩ := ((session.emitAll instrs).extends_run more).log
  rw [emitAll_log] at logged
  rw [← Array.getElem?_toList, ← logged, List.append_assoc, ← Array.length_toList,
    List.getElem?_append_right (Nat.le_add_right _ _), Nat.add_sub_cancel_left,
    List.getElem?_append_left inside, listed]

variable {session : Session} {more : List Request} {address : UInt32} {label : Label}

/-- A jump to an address that passes the check agrees with the jump to a label at this
address. -/
theorem sameWordAt_jump {opcode : Nat} (code : Field.opcode.Accepts opcode) {instr : Symbolic}
    (formed : Symbolic.jumpToAddress opcode address session.pc = .ok instr)
    (placed : ((session.emitAll [.jumpToLabel opcode label]).run more).labels.address label =
      .ok address) :
    ((session.emitAll [instr]).run more).SameWordAt
      ((session.emitAll [.jumpToLabel opcode label]).run more) session.log.size := by
  have here := session.getElem?_log_emitAll_run [instr] more 0 rfl
  have there := session.getElem?_log_emitAll_run [.jumpToLabel opcode label] more 0 rfl
  obtain ⟨word, packed⟩ := exists_word_jumpToAddress code formed
    ((session.emitAll [instr]).run more).labels
  exact ⟨_, _, word, here, there, packed, (word_jumpToLabel placed formed _).trans packed⟩

/-- A jump to an address that does not pass the check fails for the same reason when the
session with the jump to a label at this address is finished. -/
theorem resolve_jump_refused {opcode : Nat} {cause : AssemblyError}
    (refused : Symbolic.jumpToAddress opcode address session.pc = .error cause)
    (placed : ((session.emitAll [.jumpToLabel opcode label]).run more).labels.address label =
      .ok address) :
    let there := (session.emitAll [.jumpToLabel opcode label]).run more
    ∃ record, there.log[session.log.size]? = some record ∧
      record.instr.resolve record.pc there.labels = .error cause ∧
      ((∀ earlier ∈ there.log.toList.take session.log.size,
          ∃ word, earlier.word there.labels = .ok word) →
        there.image = .error (session.log.size, cause)) := by
  intro there
  have logged := session.getElem?_log_emitAll_run [.jumpToLabel opcode label] more 0 rfl
  have unresolved : (Symbolic.jumpToLabel opcode label).resolve session.pc there.labels =
      .error cause := by
    rw [resolve_jumpToLabel placed, map_eq_error_iff]
    exact map_eq_error_iff.mp refused
  refine ⟨_, logged, unresolved, fun packed => ?_⟩
  rw [image_eq_error_iff]
  exact ⟨_, logged, bind_eq_error_iff.mpr (.inl unresolved), packed⟩

/-- Loading an address agrees with loading the address of a label at this address. -/
theorem sameWordAt_load {rd : Reg}
    (placed : ((session.emitAll (Pseudo.laLabel rd label).expand).run more).labels.address label =
      .ok address) :
    let here := (session.emitAll (Pseudo.la rd address).expand).run more
    let there := (session.emitAll (Pseudo.laLabel rd label).expand).run more
    here.SameWordAt there session.log.size ∧ here.SameWordAt there (session.log.size + 1) := by
  intro here there
  have upper : (Immediate.high label).resolve session.pc there.labels =
      .ok (address.toNat / 0x10000 : Nat) := bind_eq_ok_iff.mpr ⟨address, placed, rfl⟩
  have lower : (Immediate.low label).resolve (session.pc + 4) there.labels =
      .ok (address.toNat % 0x10000 : Nat) := bind_eq_ok_iff.mpr ⟨address, placed, rfl⟩
  obtain ⟨upperFits, lowerFits⟩ := accepts_halves address
  obtain ⟨first, words⟩ := exists_word_immediate_and_literal
    (by decide : Field.opcode.Accepts Opcode.lui) .zero rd upper upperFits here.labels
  obtain ⟨second, moreWords⟩ := exists_word_immediate_and_literal
    (by decide : Field.opcode.Accepts Opcode.ori) rd rd lower lowerFits here.labels
  constructor
  · exact ⟨_, _, first, session.getElem?_log_emitAll_run _ more 0 rfl,
      session.getElem?_log_emitAll_run _ more 0 rfl, words⟩
  · exact ⟨_, _, second, session.getElem?_log_emitAll_run _ more 1 rfl,
      session.getElem?_log_emitAll_run _ more 1 rfl, moreWords⟩

end Session

/-! ## Requests -/

/-- The same jump, asked for with a literal address and with a label. -/
inductive Command.SameJump (address : UInt32) (label : Label) : Command → Command → Prop
  | j : SameJump address label (.j address) (.jLabel label)
  | jal : SameJump address label (.jal address) (.jalLabel label)

theorem Command.SameJump.exists_opcode {address : UInt32} {label : Label}
    {literal labelled : Command} (same : SameJump address label literal labelled) :
    ∃ opcode : Nat, Field.opcode.Accepts opcode ∧ ∀ pc,
      literal.instruction pc = Symbolic.jumpToAddress opcode address pc ∧
        labelled.instruction pc = .ok (.jumpToLabel opcode label) := by
  cases same with
  | j => exact ⟨Opcode.j, by decide, fun _ => ⟨rfl, rfl⟩⟩
  | jal => exact ⟨Opcode.jal, by decide, fun _ => ⟨rfl, rfl⟩⟩

theorem Session.perform_command_of_formed {session : Session} {command : Command}
    {instr : Symbolic} (formed : command.instruction session.pc = .ok instr) :
    session.perform (.command command) = (session.emitAll [instr], .ok ()) := by
  rw [perform, formed]
  rfl

theorem Session.perform_command_of_refused {session : Session} {command : Command}
    {error : AssemblyError} (refused : command.instruction session.pc = .error error) :
    session.perform (.command command) = (session, .error (.assembly error)) := by
  rw [perform, refused]
  rfl

/-- A target that is given as an address and one that is given as a label which ends up at
this address come to the same, whenever the label is placed. A jump that is accepted with
the address has the same word with the label. A jump that is refused with the address
leaves the session as it was, and with the label its record cannot be resolved, for the
same reason. An address is loaded by the same two words. -/
theorem literal_target_agrees_with_label (config : Config) (requests more : List Request)
    (address : UInt32) (label : Label) :
    let session := (Session.new config).run requests
    let position := session.log.size
    (∀ literal labelled, Command.SameJump address label literal labelled →
      let here := (session.perform (.command literal)).1.run more
      let there := (session.perform (.command labelled)).1.run more
      there.labels.address label = .ok address →
        ((session.perform (.command literal)).2 = .ok () → here.SameWordAt there position) ∧
          ∀ error, (session.perform (.command literal)).2 = .error error →
            (session.perform (.command literal)).1 = session ∧
              ∃ cause record, error = .assembly cause ∧ there.log[position]? = some record ∧
                record.instr.resolve record.pc there.labels = .error cause ∧
                ((∀ earlier ∈ there.log.toList.take position,
                    ∃ word, earlier.word there.labels = .ok word) →
                  there.image = .error (position, cause))) ∧
      ∀ rd,
        let here := (session.perform (.pseudo (.la rd address))).1.run more
        let there := (session.perform (.pseudo (.laLabel rd label))).1.run more
        there.labels.address label = .ok address →
          here.SameWordAt there position ∧ here.SameWordAt there (position + 1) := by
  intro session position
  constructor
  · intro literal labelled same
    obtain ⟨opcode, code, forms⟩ := same.exists_opcode
    obtain ⟨toAddress, toLabel⟩ := forms session.pc
    rw [Session.perform_command_of_formed toLabel]
    cases formed : Symbolic.jumpToAddress opcode address session.pc with
    | ok instr =>
        rw [Session.perform_command_of_formed (toAddress.trans formed)]
        intro here there placed
        refine ⟨fun _ => Session.sameWordAt_jump code formed placed, fun _ refused => ?_⟩
        cases refused
    | error cause =>
        rw [Session.perform_command_of_refused (toAddress.trans formed)]
        intro here there placed
        refine ⟨fun accepted => (by cases accepted), ?_⟩
        rintro _ ⟨rfl⟩
        obtain ⟨record, logged, unresolved, blamed⟩ :=
          Session.resolve_jump_refused formed placed
        exact ⟨rfl, cause, record, rfl, logged, unresolved, blamed⟩
  · intro rd here there placed
    exact Session.sameWordAt_load placed

/-- A jump over the next instruction, at the end of a segment and one instruction before. -/
theorem literal_target_agrees_with_label_ahead :
    let last := (Session.new ⟨0x0FFFFFFC, .little⟩).run [.create none]
    let before := (Session.new ⟨0x0FFFFFF8, .little⟩).run [.create none]
    let more : List Request := [.emit .nop, .place ⟨0⟩]
    ((last.perform (.command (.j 0x10000004))).1.run more).SameWordAt
        ((last.perform (.command (.jLabel ⟨0⟩))).1.run more) 0 ∧
      (before.perform (.command (.jal 0x10000000))).1 = before ∧
      ((before.perform (.command (.jalLabel ⟨0⟩))).1.run more).image =
        .error (0, .jumpOutsideSegment 0x10000000 0x0FFFFFF8) ∧
      ((before.perform (.pseudo (.la ⟨4⟩ 0x10000004))).1.run more).SameWordAt
        ((before.perform (.pseudo (.laLabel ⟨4⟩ ⟨0⟩))).1.run more) 1 := by
  intro last before more
  have agrees := literal_target_agrees_with_label ⟨0x0FFFFFFC, .little⟩ [.create none] more
    0x10000004 ⟨0⟩
  have loads := literal_target_agrees_with_label ⟨0x0FFFFFF8, .little⟩ [.create none] more
    0x10000004 ⟨0⟩
  have refused := (literal_target_agrees_with_label ⟨0x0FFFFFF8, .little⟩ [.create none] more
    0x10000000 ⟨0⟩).1 _ _ .jal (toOption_eq_some_iff.mp (by decide +kernel))
  obtain ⟨unchanged, cause, record, ⟨rfl⟩, _, _, blamed⟩ := refused.2
    (.assembly (.jumpOutsideSegment 0x10000000 0x0FFFFFF8))
    (cause?_eq_some_iff.mp (by decide +kernel))
  refine ⟨?_, unchanged, blamed (List.forall_mem_nil _), ?_⟩
  · exact (agrees.1 _ _ .j (toOption_eq_some_iff.mp (by decide +kernel))).1
      (toOption_eq_some_iff.mp (by decide +kernel))
  · exact (loads.2 ⟨4⟩ (toOption_eq_some_iff.mp (by decide +kernel))).2

end Mips32
