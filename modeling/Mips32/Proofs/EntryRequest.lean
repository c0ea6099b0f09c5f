/-
# Requests for entries of the catalog

A request for an entry succeeds exactly if its operands have a form of the entry's shape and
the number among them, if there is one, is admitted. Then one record is appended. Any other
request is refused, and the cause of the refusal is decided by the shape: a list of another
form and a number that is no amount or code are mismatches, a number that does not fit in 32
bits is named as such, and a literal jump is refused for the reason its target gives. A
request that is refused leaves the session as it was.
-/
import Mips32.Request
import Mips32.Proofs.Shape

namespace Mips32

/-! ## Numbers among operands -/

/-- The number in an operand. -/
def Operand.number? {L : Type} : Operand L → Option Int
  | number value => some value
  | memory offset _ => some offset
  | reg _ | freg _ | label _ => none

/-- The numbers that a shape admits at an address. The shapes that are not listed take
none. -/
def Shape.AdmitsAt (pc : UInt32) (value : Int) : Shape → Prop
  | shiftByAmount | trap => IsUnsigned32 value
  | immediate | upperImmediate | memory | floatMemory => IsSigned32 value
  | jump => IsUnsigned32 value ∧ ∃ index, jumpIndex (UInt32.ofNat value.toNat) pc = .ok index
  | _ => True

/-- What an entry has to say against a number at an address. -/
inductive Entry.Objects (entry : Entry) (pc : UInt32) (value : Int) : EmissionError → Prop
  | amount (shaped : entry.shape = .shiftByAmount ∨ entry.shape = .trap)
      (outside : ¬ IsUnsigned32 value) :
    Objects entry pc value (.operands entry.mnemonic entry.shape.operandText)
  | immediate (shaped : entry.shape = .immediate ∨ entry.shape = .upperImmediate ∨
        entry.shape = .memory ∨ entry.shape = .floatMemory)
      (outside : ¬ IsSigned32 value) :
    Objects entry pc value (.number entry.mnemonic value)
  | address (shaped : entry.shape = .jump) (outside : ¬ IsUnsigned32 value) :
    Objects entry pc value (.number entry.mnemonic value)
  | target (shaped : entry.shape = .jump) (inside : IsUnsigned32 value) {cause : AssemblyError}
      (refused : jumpIndex (UInt32.ofNat value.toNat) pc = .error cause) :
    Objects entry pc value (.assembly cause)

/-- Why an entry refuses operands at an address: they are of no form of its shape, or there
is an objection to the number among them. -/
inductive Entry.Refuses (entry : Entry) (pc : UInt32) (operands : List (Operand Label)) :
    EmissionError → Prop
  | form (other : ¬ entry.shape.Takes operands) :
    Refuses entry pc operands (.operands entry.mnemonic entry.shape.operandText)
  | number (taken : entry.shape.Takes operands) {value : Int}
      (listed : value ∈ operands.filterMap Operand.number?) {error : EmissionError}
      (objects : entry.Objects pc value error) :
    Refuses entry pc operands error

namespace Entry

/-- The check of a number at an address, apart from the instruction the number is for. -/
def check (entry : Entry) (pc : UInt32) (value : Int) : Except EmissionError Unit :=
  match entry.shape with
  | .shiftByAmount | .trap => if IsUnsigned32 value then .ok () else .error entry.mismatch
  | .immediate | .upperImmediate | .memory | .floatMemory =>
    if IsSigned32 value then .ok () else .error (.number entry.mnemonic value)
  | .jump =>
    if IsUnsigned32 value then
      ((jumpIndex (UInt32.ofNat value.toNat) pc).mapError .assembly).map fun _ => ()
    else .error (.number entry.mnemonic value)
  | _ => .ok ()

theorem check_eq_ok_iff {entry : Entry} {pc : UInt32} {value : Int} :
    entry.check pc value = .ok () ↔ entry.shape.AdmitsAt pc value := by
  obtain ⟨mnemonic, shape, opcode, funct, selector⟩ := entry
  cases shape with
  | shiftByAmount | trap | immediate | upperImmediate | memory | floatMemory =>
      unfold check
      dsimp only [Shape.AdmitsAt]
      split <;> simp [*]
  | jump =>
      unfold check
      dsimp only [Shape.AdmitsAt]
      split
      · simp [*, map_eq_ok_iff, mapError_eq_ok_iff]
      · simp [*]
  | _ => simp [check, Shape.AdmitsAt]

theorem check_eq_error_iff {entry : Entry} {pc : UInt32} {value : Int} {error : EmissionError} :
    entry.check pc value = .error error ↔ entry.Objects pc value error := by
  obtain ⟨mnemonic, shape, opcode, funct, selector⟩ := entry
  constructor
  · intro failed
    unfold check at failed
    cases shape with
    | shiftByAmount | trap =>
        dsimp only at failed
        split at failed
        · cases failed
        · cases failed
          exact .amount (by simp) ‹_›
    | immediate | upperImmediate | memory | floatMemory =>
        dsimp only at failed
        split at failed
        · cases failed
        · cases failed
          exact .immediate (by simp) ‹_›
    | jump =>
        dsimp only at failed
        split at failed
        · obtain ⟨cause, refused, rfl⟩ := mapError_eq_error_iff.mp (map_eq_error_iff.mp failed)
          exact .target rfl ‹_› refused
        · cases failed
          exact .address rfl ‹_›
    | _ => cases failed
  · intro objects
    cases objects with
    | amount shaped outside =>
        dsimp only at shaped
        rcases shaped with rfl | rfl
        · exact if_neg outside
        · exact if_neg outside
    | immediate shaped outside =>
        dsimp only at shaped
        rcases shaped with rfl | rfl | rfl | rfl <;> exact if_neg outside
    | address shaped outside =>
        dsimp only at shaped
        subst shaped
        exact if_neg outside
    | target shaped inside refused =>
        dsimp only at shaped
        subst shaped
        refine (if_pos inside).trans ?_
        rw [refused]
        rfl

/-- The number among operands of a form is what is left to refuse. -/
theorem instruction_of_taken {entry : Entry} {operands : List (Operand Label)}
    (taken : entry.shape.Takes operands) (pc : UInt32) :
    (operands.filterMap Operand.number? = [] ∧
      ∃ instr, entry.instruction pc operands = .ok instr) ∨
    ∃ value, operands.filterMap Operand.number? = [value] ∧
      (entry.instruction pc operands).map (fun _ => ()) = entry.check pc value := by
  obtain ⟨mnemonic, shape, opcode, funct, selector⟩ := entry
  cases taken with
  | shiftByAmount rd rt number | trapCode number =>
      refine .inr ⟨number, rfl, ?_⟩
      unfold Entry.instruction check
      dsimp only
      split <;> rfl
  | immediate rt rs number | upperImmediate rt number | memory rt number base
  | floatMemory ft number base =>
      refine .inr ⟨number, rfl, ?_⟩
      unfold Entry.instruction check signed
      dsimp only
      split <;> rfl
  | jumpToAddress address =>
      refine .inr ⟨address, rfl, ?_⟩
      unfold Entry.instruction check Symbolic.jumpToAddress
      dsimp only
      split
      · cases jumpIndex (UInt32.ofNat address.toNat) pc <;> rfl
      · rfl
  -- The other forms have no number in them and always give an instruction.
  | _ => exact .inl ⟨rfl, _, rfl⟩

theorem instruction_eq_error_iff {entry : Entry} {pc : UInt32} {operands : List (Operand Label)}
    {error : EmissionError} :
    entry.instruction pc operands = .error error ↔ entry.Refuses pc operands error := by
  by_cases taken : entry.shape.Takes operands
  · rcases instruction_of_taken taken pc with ⟨none, instr, formed⟩ | ⟨value, only, checked⟩
    · rw [formed]
      constructor
      · intro failed
        cases failed
      · rintro (other | ⟨-, listed, -⟩)
        · exact absurd taken other
        · rw [none] at listed
          cases listed
    · rw [← map_eq_error_iff (f := fun _ => ()), checked, check_eq_error_iff]
      constructor
      · intro objects
        exact .number taken (by rw [only]; exact List.mem_singleton_self value) objects
      · rintro (other | ⟨-, listed, objects⟩)
        · exact absurd taken other
        · rw [only, List.mem_singleton] at listed
          exact listed ▸ objects
  · rw [instruction_eq_mismatch taken]
    constructor
    · rintro ⟨rfl⟩
      exact .form taken
    · rintro (- | ⟨other, -⟩)
      · rfl
      · exact absurd other taken

theorem exists_instruction_iff {entry : Entry} {pc : UInt32} {operands : List (Operand Label)} :
    (∃ instr, entry.instruction pc operands = .ok instr) ↔
      entry.shape.Takes operands ∧
        ∀ value ∈ operands.filterMap Operand.number?, entry.shape.AdmitsAt pc value := by
  by_cases taken : entry.shape.Takes operands
  · rw [and_iff_right taken]
    rcases instruction_of_taken taken pc with ⟨none, formed⟩ | ⟨value, only, checked⟩
    · rw [none]
      exact iff_of_true formed (List.forall_mem_nil _)
    · rw [only, List.forall_mem_singleton, ← check_eq_ok_iff, ← checked]
      simp [map_eq_ok_iff]
  · rw [instruction_eq_mismatch taken]
    simp [taken]

end Entry

/-- A request for an entry succeeds exactly if the operands have a form of its shape and their
number is admitted, and then appends one record at the current address. Otherwise it is
refused for the cause that the shape decides, and the session is as it was. -/
theorem Session.perform_entry_exactly (session : Session) (entry : Entry)
    (operands : List (Operand Label)) :
    ((session.perform (.entry entry operands)).2 = .ok () ↔
      entry.shape.Takes operands ∧
        ∀ value ∈ operands.filterMap Operand.number?, entry.shape.AdmitsAt session.pc value) ∧
    ((session.perform (.entry entry operands)).2 = .ok () →
      ∃ instr, entry.instruction session.pc operands = .ok instr ∧
        (session.perform (.entry entry operands)).1 =
          { session with pc := session.pc + 4, log := session.log.push ⟨session.pc, instr⟩ }) ∧
    ∀ error,
      ((session.perform (.entry entry operands)).2 = .error error ↔
        entry.Refuses session.pc operands error) ∧
      ((session.perform (.entry entry operands)).2 = .error error →
        (session.perform (.entry entry operands)).1 = session) := by
  rw [← Entry.exists_instruction_iff]
  cases outcome : entry.instruction session.pc operands with
  | ok instr =>
      have performed : session.perform (.entry entry operands) = (session.emit instr, .ok ()) := by
        rw [perform, outcome]
        rfl
      rw [performed]
      refine ⟨iff_of_true rfl ⟨instr, rfl⟩, fun _ => ⟨instr, rfl, rfl⟩, fun error => ⟨?_, ?_⟩⟩
      · rw [← Entry.instruction_eq_error_iff, outcome]
        simp
      · intro refused
        cases refused
  | error cause =>
      have performed : session.perform (.entry entry operands) = (session, .error cause) := by
        rw [perform, outcome]
        rfl
      rw [performed]
      refine ⟨by simp, ?_, fun error => ⟨?_, fun _ => rfl⟩⟩
      · intro success
        cases success
      · rw [← Entry.instruction_eq_error_iff, outcome]
        simp

end Mips32
