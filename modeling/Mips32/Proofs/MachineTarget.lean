/-
# Where the machine goes

The machine computes the target of a branch or a jump from the instruction word
and the address the word occupies. An offset or an index that the assembler found
for a target leads the machine to that target, also across the end of the address
space, and so the word of a record leads to the label its instruction waited for.
A target that 16 bits of offset can express is never refused.
-/
import Mips32.Session
import Mips32.Proofs.Packing

namespace Mips32

/-- The 16-bit number `half`, with its highest bit as the sign. -/
def signExtend16 (half : UInt32) : Int :=
  (half.toNat : Int).bmod 0x10000

/-- Where the branch `word` at `pc` goes when it is taken: a signed number of words
from the delay slot. -/
def branchTarget (pc word : UInt32) : UInt32 :=
  pc + 4 + 4 * UInt32.ofInt (signExtend16 (word &&& 0xFFFF))

/-- Where the jump `word` at `pc` goes: a word of the segment of the delay slot. -/
def jumpTarget (pc word : UInt32) : UInt32 :=
  ((pc + 4 : UInt32) &&& 0xF0000000) ||| ((word &&& 0x3FFFFFF) <<< (2 : UInt32))

/-! ## Masks -/

theorem toNat_lower_half (word : UInt32) :
    (word &&& 0xFFFF).toNat = Field.immediate.read word := by
  rw [UInt32.toNat_and, Field.read, Field.weight, Nat.div_one]
  exact Nat.and_two_pow_sub_one_eq_mod word.toNat 16

theorem toNat_jump_index (word : UInt32) :
    (word &&& 0x3FFFFFF).toNat = Field.jumpIndex.read word := by
  rw [UInt32.toNat_and, Field.read, Field.weight, Nat.div_one]
  exact Nat.and_two_pow_sub_one_eq_mod word.toNat 26

theorem toNat_segment_bits (address : UInt32) :
    (address &&& 0xF0000000).toNat = 0x10000000 * segment address := by
  have mask : (0xF0000000 : UInt32).toNat = (2 ^ 4 - 1) <<< 28 := rfl
  have shifted : 0x10000000 * segment address = address.toNat >>> 28 <<< 28 := by
    rw [Nat.shiftLeft_eq, Nat.shiftRight_eq_div_pow, Nat.mul_comm]
    rfl
  rw [UInt32.toNat_and, mask, shifted]
  apply Nat.eq_of_testBit_eq
  intro i
  rw [Nat.testBit_and, Nat.testBit_shiftLeft, Nat.testBit_shiftLeft, Nat.testBit_shiftRight,
    Nat.testBit_two_pow_sub_one]
  by_cases high : 32 ≤ i
  · have beyond : address.toNat < 2 ^ i :=
      Nat.lt_of_lt_of_le address.toNat_lt (Nat.pow_le_pow_right (by decide) high)
    have clear : address.toNat.testBit i = false := Nat.testBit_lt_two_pow beyond
    by_cases low : 28 ≤ i
    · simp [clear, Nat.add_sub_cancel' low]
    · omega
  · by_cases low : 28 ≤ i
    · have inside : i - 28 < 4 := by omega
      simp [low, inside, Nat.add_sub_cancel' low]
    · simp [low]

/-- An address made of the segment of one address and a distance within it. -/
theorem toNat_within_segment (address : UInt32) {distance : UInt32}
    (low : distance.toNat < 0x10000000) :
    ((address &&& 0xF0000000) ||| distance).toNat =
      0x10000000 * segment address + distance.toNat := by
  rw [UInt32.toNat_or, toNat_segment_bits]
  exact (Nat.two_pow_add_eq_or_of_lt (i := 28) low _).symm

theorem toNat_shifted_index (index : UInt32) (small : index.toNat < 0x4000000) :
    (index <<< (2 : UInt32)).toNat = 4 * index.toNat := by
  have amount : (2 : UInt32).toNat % 32 = 2 := rfl
  rw [UInt32.toNat_shiftLeft, amount, Nat.shiftLeft_eq]
  omega

/-! ## Branches -/

/-- The sum that the machine forms is that of the numbers modulo 2^32. -/
theorem delay_slot_add_eq_iff {pc target : UInt32} {words : Int} :
    pc + 4 + 4 * UInt32.ofInt words = target ↔
      ((pc.toNat : Int) + 4 + 4 * words) % 0x100000000 = target.toNat := by
  have sum : ((pc + 4 + 4 * UInt32.ofInt words).toNat : Int) =
      ((pc.toNat : Int) + 4 + 4 * words) % 0x100000000 := by
    simp only [UInt32.toNat_add, UInt32.toNat_mul, UInt32.ofInt, UInt32.toNat_ofNat',
      UInt32.reduceToNat]
    omega
  rw [← sum, ← UInt32.toNat_inj, Int.ofNat_inj]

/-- An offset that was found is a signed number of 16 bits and leads from the delay
slot to the target. -/
theorem branchOffset_eq_ok {target pc : UInt32} {words : Int}
    (found : branchOffset target pc = .ok words) :
    -0x8000 ≤ words ∧ words ≤ 0x7FFF ∧ pc + 4 + 4 * UInt32.ofInt words = target := by
  have around := Int.bmod_emod (x := (target.toNat : Int) - pc.toNat - 4) (m := 0x100000000)
  unfold branchOffset at found
  generalize ((target.toNat : Int) - pc.toNat - 4).bmod 0x100000000 = distance at found around
  dsimp only at found
  split at found
  · cases found
  · rename_i multiple
    split at found
    · rename_i fits
      cases found
      refine ⟨fits.1, fits.2, delay_slot_add_eq_iff.mpr ?_⟩
      have bound := target.toNat_lt
      omega
    · cases found

/-- An offset that fits 16 bits is found. -/
theorem branchOffset_of_reached {target pc : UInt32} {words : Int} (lower : -0x8000 ≤ words)
    (upper : words ≤ 0x7FFF) (reached : pc + 4 + 4 * UInt32.ofInt words = target) :
    branchOffset target pc = .ok words := by
  have around := Int.bmod_emod (x := (target.toNat : Int) - pc.toNat - 4) (m := 0x100000000)
  have least := Int.le_bmod (x := (target.toNat : Int) - pc.toNat - 4) (m := 0x100000000)
    (by decide)
  have greatest := Int.bmod_lt (x := (target.toNat : Int) - pc.toNat - 4) (m := 0x100000000)
    (by decide)
  have distance : ((target.toNat : Int) - pc.toNat - 4).bmod 0x100000000 = 4 * words := by
    have sum := delay_slot_add_eq_iff.mp reached
    omega
  unfold branchOffset
  dsimp only
  rw [distance, if_neg (by omega), if_pos (by omega)]
  exact congrArg Except.ok (by omega)

theorem signExtend16_of_residue {half : UInt32} {value : Int}
    (stored : half.toNat = Field.immediate.residue value)
    (lower : -0x8000 ≤ value) (upper : value ≤ 0x7FFF) : signExtend16 half = value := by
  unfold signExtend16
  rw [stored, Field.natCast_residue]
  simp only [Field.capacity]
  rw [Int.emod_bmod]
  apply Int.bmod_eq_of_le
  · omega
  · omega

/-- A branch whose word was packed with an offset that was found goes to the target
of the offset. -/
theorem branchTarget_eq {target pc word : UInt32} {opcode rs rt : Nat} {words : Int}
    (found : branchOffset target pc = .ok words)
    (packed : Concrete.encode (.immediate opcode rs rt words) = .ok word) :
    branchTarget pc word = target := by
  obtain ⟨lower, upper, reached⟩ := branchOffset_eq_ok found
  have listed : (Field.immediate, words) ∈ Concrete.fields (.immediate opcode rs rt words) := by
    simp [Concrete.fields]
  have stored := (Concrete.read_of_encode packed listed).2
  rw [branchTarget, signExtend16_of_residue ((toNat_lower_half word).trans stored) lower upper,
    reached]

/-! ## Jumps -/

theorem jumpIndex_eq_ok {target pc : UInt32} {index : Nat}
    (found : jumpIndex target pc = .ok index) :
    segment target = segment (pc + 4) ∧ target.toNat % 4 = 0 ∧
      index = target.toNat % 0x10000000 / 4 := by
  unfold jumpIndex at found
  split at found
  · cases found
  · split at found
    · cases found
    · cases found
      refine ⟨?_, ?_, rfl⟩ <;> omega

/-- A jump whose word was packed with an index that was found goes to the target of
the index. -/
theorem jumpTarget_eq {target pc word : UInt32} {opcode index : Nat}
    (found : jumpIndex target pc = .ok index)
    (packed : Concrete.encode (.jump opcode index) = .ok word) :
    jumpTarget pc word = target := by
  obtain ⟨sameSegment, multiple, rfl⟩ := jumpIndex_eq_ok found
  have listed : (Field.jumpIndex, ((target.toNat % 0x10000000 / 4 : Nat) : Int)) ∈
      Concrete.fields (.jump opcode (target.toNat % 0x10000000 / 4)) := by
    simp [Concrete.fields]
  obtain ⟨accepted, stored⟩ := Concrete.read_of_encode packed listed
  rw [Field.residue_of_accepts accepted, ← toNat_jump_index] at stored
  have shifted := toNat_shifted_index (word &&& 0x3FFFFFF) (by omega)
  apply UInt32.toNat.inj
  rw [jumpTarget, toNat_within_segment _ (by omega), shifted, stored, ← sameSegment, segment]
  omega

/-! ## Halves of an address -/

theorem lower_half_of_high {address word : UInt32} {opcode rs rt : Nat}
    (packed : Concrete.encode
      (.immediate opcode rs rt ((address.toNat / 0x10000 : Nat) : Int)) = .ok word) :
    word &&& 0xFFFF = address >>> (16 : UInt32) := by
  obtain ⟨accepted, stored⟩ := Concrete.read_of_encode packed
    (List.mem_of_getElem? (i := 3) rfl)
  apply UInt32.toNat.inj
  rw [toNat_lower_half, stored, Field.residue_of_accepts accepted, UInt32.toNat_shiftRight,
    Nat.shiftRight_eq_div_pow]
  rfl

theorem lower_half_of_low {address word : UInt32} {opcode rs rt : Nat}
    (packed : Concrete.encode
      (.immediate opcode rs rt ((address.toNat % 0x10000 : Nat) : Int)) = .ok word) :
    word &&& 0xFFFF = address &&& 0xFFFF := by
  obtain ⟨accepted, stored⟩ := Concrete.read_of_encode packed
    (List.mem_of_getElem? (i := 3) rfl)
  apply UInt32.toNat.inj
  rw [toNat_lower_half, stored, Field.residue_of_accepts accepted, toNat_lower_half,
    Field.read, Field.weight, Nat.div_one, Field.capacity]

/-! ## Records -/

/-- The word of an instruction at `pc` is right about the address of the label the
instruction refers to. Nothing is asked of an instruction without a label. -/
def Symbolic.RefersTo (instr : Symbolic) (pc word address : UInt32) : Prop :=
  match instr with
  | .immediate _ _ _ (.branch _) => branchTarget pc word = address
  | .immediate _ _ _ (.high _) => word &&& 0xFFFF = address >>> (16 : UInt32)
  | .immediate _ _ _ (.low _) => word &&& 0xFFFF = address &&& 0xFFFF
  | .jump _ (.label _) => jumpTarget pc word = address
  | _ => True

/-- A record whose word was packed is right about the address its label had. -/
theorem Record.refersTo_of_word {record : Record} {labels : LabelTable} {word : UInt32}
    (packed : record.word labels = .ok word) {label : Label}
    (waits : record.instr.label? = some label) :
    ∃ address, labels.address label = .ok address ∧
      record.instr.RefersTo record.pc word address := by
  obtain ⟨pc, instr⟩ := record
  obtain ⟨concrete, resolved, encoded⟩ := bind_eq_ok_iff.mp packed
  cases instr with
  | immediate opcode rs rt value =>
      obtain ⟨number, found, resolved⟩ := bind_eq_ok_iff.mp resolved
      cases resolved
      cases value with
      | literal value => cases waits
      | branch target =>
          cases waits
          obtain ⟨address, placed, found⟩ := bind_eq_ok_iff.mp found
          exact ⟨address, placed, branchTarget_eq found encoded⟩
      | high target =>
          cases waits
          obtain ⟨address, placed, found⟩ := bind_eq_ok_iff.mp found
          cases found
          exact ⟨address, placed, lower_half_of_high encoded⟩
      | low target =>
          cases waits
          obtain ⟨address, placed, found⟩ := bind_eq_ok_iff.mp found
          cases found
          exact ⟨address, placed, lower_half_of_low encoded⟩
  | jump opcode target =>
      obtain ⟨index, found, resolved⟩ := bind_eq_ok_iff.mp resolved
      cases resolved
      cases target with
      | index position => cases waits
      | label target =>
          cases waits
          obtain ⟨address, placed, found⟩ := bind_eq_ok_iff.mp found
          exact ⟨address, placed, jumpTarget_eq found encoded⟩
  | register | trap | float | data | nop => cases waits

end Mips32
