/-
# Operand lists of a shape

A shape takes operand lists of one or two forms, told apart by the kinds of their
operands. An entry refuses every other list for its shape. The forms do not look at
labels, so a list has a form exactly when it has the form with its labels
replaced. Whether the numbers in a list are small enough is a separate question.
-/
import Mips32.Catalog
import Mips32.Proofs.Outcome

namespace Mips32

namespace Operand

variable {L M : Type} {operand : Operand L} {f : L → M}

theorem map_eq_reg_iff {reg : Reg} : operand.map f = .reg reg ↔ operand = .reg reg := by
  cases operand <;> simp [map]

theorem map_eq_freg_iff {reg : FReg} : operand.map f = .freg reg ↔ operand = .freg reg := by
  cases operand <;> simp [map]

theorem map_eq_number_iff {value : Int} :
    operand.map f = .number value ↔ operand = .number value := by
  cases operand <;> simp [map]

theorem map_eq_memory_iff {offset : Int} {base : Reg} :
    operand.map f = .memory offset base ↔ operand = .memory offset base := by
  cases operand <;> simp [map]

theorem map_eq_label_iff {target : M} :
    operand.map f = .label target ↔ ∃ source, operand = .label source ∧ f source = target := by
  cases operand <;> simp [map]

end Operand

/-- The operand lists a shape takes. -/
inductive Shape.Takes {L : Type} : Shape → List (Operand L) → Prop
  | threeRegs (rd rs rt : Reg) : Takes .threeRegs [.reg rd, .reg rs, .reg rt]
  | shiftByReg (rd rt rs : Reg) : Takes .shiftByReg [.reg rd, .reg rt, .reg rs]
  | shiftByAmount (rd rt : Reg) (amount : Int) :
    Takes .shiftByAmount [.reg rd, .reg rt, .number amount]
  | twoSources (rs rt : Reg) : Takes .twoSources [.reg rs, .reg rt]
  | destination (rd : Reg) : Takes .destination [.reg rd]
  | source (rs : Reg) : Takes .source [.reg rs]
  | link (rs : Reg) : Takes .link [.reg rs]
  | linkTo (rd rs : Reg) : Takes .link [.reg rd, .reg rs]
  | immediate (rt rs : Reg) (value : Int) :
    Takes .immediate [.reg rt, .reg rs, .number value]
  | upperImmediate (rt : Reg) (value : Int) : Takes .upperImmediate [.reg rt, .number value]
  | memory (rt : Reg) (offset : Int) (base : Reg) :
    Takes .memory [.reg rt, .memory offset base]
  | floatMemory (ft : FReg) (offset : Int) (base : Reg) :
    Takes .floatMemory [.freg ft, .memory offset base]
  | branch (rs rt : Reg) (target : L) : Takes .branch [.reg rs, .reg rt, .label target]
  | zeroBranch (rs : Reg) (target : L) : Takes .zeroBranch [.reg rs, .label target]
  | floatBranch (target : L) : Takes .floatBranch [.label target]
  | jumpToAddress (address : Int) : Takes .jump [.number address]
  | jumpToLabel (target : L) : Takes .jump [.label target]
  | trap : Takes .trap []
  | trapCode (code : Int) : Takes .trap [.number code]
  | floatBinary (fd fs ft : FReg) : Takes .floatBinary [.freg fd, .freg fs, .freg ft]
  | floatUnary (fd fs : FReg) : Takes .floatUnary [.freg fd, .freg fs]
  | floatCompare (fs ft : FReg) : Takes .floatCompare [.freg fs, .freg ft]
  | floatMove (rt : Reg) (fs : FReg) : Takes .floatMove [.reg rt, .freg fs]
  | bare : Takes .bare []

namespace Shape.Takes

variable {L M : Type} {shape : Shape} {operands : List (Operand L)}

/-- A form does not depend on the labels in it. -/
theorem of_map {f : L → M} (taken : shape.Takes (operands.map (Operand.map f))) :
    shape.Takes operands := by
  generalize mapped : operands.map (Operand.map f) = replaced at taken
  cases taken with
  | branch rs rt target =>
      simp only [List.map_eq_cons_iff, List.map_eq_nil_iff, Operand.map_eq_reg_iff,
        Operand.map_eq_label_iff] at mapped
      obtain ⟨_, _, rfl, rfl, _, _, rfl, rfl, _, _, rfl, ⟨target, rfl, -⟩, rfl⟩ := mapped
      exact .branch rs rt target
  | zeroBranch rs target =>
      simp only [List.map_eq_cons_iff, List.map_eq_nil_iff, Operand.map_eq_reg_iff,
        Operand.map_eq_label_iff] at mapped
      obtain ⟨_, _, rfl, rfl, _, _, rfl, ⟨target, rfl, -⟩, rfl⟩ := mapped
      exact .zeroBranch rs target
  | floatBranch target =>
      simp only [List.map_eq_cons_iff, List.map_eq_nil_iff, Operand.map_eq_label_iff] at mapped
      obtain ⟨_, _, rfl, ⟨target, rfl, -⟩, rfl⟩ := mapped
      exact .floatBranch target
  | jumpToLabel target =>
      simp only [List.map_eq_cons_iff, List.map_eq_nil_iff, Operand.map_eq_label_iff] at mapped
      obtain ⟨_, _, rfl, ⟨target, rfl, -⟩, rfl⟩ := mapped
      exact .jumpToLabel target
  | _ =>
      simp only [List.map_eq_cons_iff, List.map_eq_nil_iff, Operand.map_eq_reg_iff,
        Operand.map_eq_freg_iff, Operand.map_eq_number_iff, Operand.map_eq_memory_iff,
        exists_eq_right_right, exists_eq_right] at mapped
      subst mapped
      constructor

end Shape.Takes

/-- An entry refuses every operand list that its shape does not take. -/
theorem Entry.instruction_eq_mismatch {entry : Entry} {operands : List (Operand Label)}
    (refused : ¬ entry.shape.Takes operands) (pc : UInt32) :
    entry.instruction pc operands = .error entry.mismatch := by
  obtain ⟨mnemonic, shape, opcode, funct, selector⟩ := entry
  cases shape <;> unfold Entry.instruction <;> dsimp only <;> split <;>
    first | rfl | exact absurd (by constructor) refused

end Mips32
