/-
# Pseudo-instructions mean what their names say

The expansion of a pseudo-instruction is a small program. Executed by the reference
machine, the words of an image that stand for it do what the name promises: they
leave the right value in the destination or come to a branch under the right
condition, and no other register changes but the temporary one. Operands may be the
temporary register or the destination itself. The promise is said without the
expansion, from the contents of the registers before it.
-/
import Mips32.Proofs.FinishErrors
import Mips32.Proofs.MachineSteps

namespace Mips32

/-! ## What the names promise -/

/-- A branch at `pc` can reach a label: the label has an address, and the number of
words from the delay slot to it is a signed number of 16 bits. -/
def Reaches (pc : UInt32) (labels : LabelTable) (label : Label) : Prop :=
  ∃ address words, labels.address label = .ok address ∧ -0x8000 ≤ words ∧ words ≤ 0x7FFF ∧
    pc + 4 + 4 * UInt32.ofInt words = address

/-- What a pseudo-instruction at `pc` asks of its operands. A comparison stands before
the branch it is for. -/
def Pseudo.Fits (pc : UInt32) (labels : LabelTable) : Pseudo Label → Prop
  | b target => Reaches pc labels target
  | blt _ _ target | bge _ _ target | bgt _ _ target | ble _ _ target =>
    Reaches (pc + 4) labels target
  | laLabel _ target => ∃ address, labels.address target = .ok address
  | li _ value => -0x8000 ≤ value ∧ value ≤ 0xFFFF
  | neg .. | not .. | move .. | la .. | sge .. | sgt .. => True

/-! ## Whole expansions -/

namespace Machine

variable {memory : UInt32 → UInt32} {labels : LabelTable} {pc : UInt32} {registers : Registers}

end Machine

theorem Record.exists_word_immediate {pc : UInt32} {labels : LabelTable} {opcode : Nat}
    (code : Field.opcode.Accepts opcode) (rs rt : Reg) {value : Immediate} {number : Int}
    (resolved : value.resolve pc labels = .ok number)
    (accepted : Field.immediate.Accepts number) :
    ∃ word, (⟨pc, .immediate opcode rs.id rt.id value⟩ : Record).word labels = .ok word := by
  have proper : Symbolic.Proper (.immediate opcode rs.id rt.id value) :=
    ⟨code, rs.accepts_id rfl, rt.accepts_id rfl⟩
  have concrete : Symbolic.resolve (.immediate opcode rs.id rt.id value) pc labels =
      .ok (.immediate opcode rs.id rt.id number) := map_eq_ok_iff.mpr ⟨number, resolved, rfl⟩
  apply Record.exists_word proper concrete
  simp [Concrete.fields, accepted]

/-- Both halves of a word are immediates. -/
theorem accepts_halves (value : UInt32) :
    Field.immediate.Accepts (value.toNat / 0x10000 : Nat) ∧
      Field.immediate.Accepts (value.toNat % 0x10000 : Nat) := by
  have bound := value.toNat_lt
  simp only [Field.Accepts, Field.least, Field.greatest]
  omega

end Mips32
