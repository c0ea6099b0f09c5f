/-
# Targets within reach

The machine gets from an offset or an index to a target, the assembler from a target to an
offset or an index, and each way undoes the other. A branch or a jump is refused exactly if
no word at its address leads to the target, and then the cause says why. What the machine
does is stated in the arithmetic of 32 bits and what the assembler does in that of the
integers; the two agree for all pairs of addresses, also where the delay slot lies in the
next segment or at the beginning of the address space.
-/
import Mathlib.Logic.ExistsUnique
import Mips32.Proofs.FinishErrors

namespace Mips32

/-! ## Branches -/

/-- A signed number of 16 bits that leads from the delay slot of a branch at `pc` to
`target`, counted in words and modulo 2^32. -/
def BranchReaches (pc target : UInt32) (words : Int) : Prop :=
  -0x8000 ≤ words ∧ words ≤ 0x7FFF ∧
    ((pc.toNat : Int) + 4 + 4 * words) % 0x100000000 = target.toNat

theorem branchOffset_eq_ok_iff {target pc : UInt32} {words : Int} :
    branchOffset target pc = .ok words ↔ BranchReaches pc target words := by
  constructor
  · intro found
    obtain ⟨lower, upper, reached⟩ := branchOffset_eq_ok found
    exact ⟨lower, upper, delay_slot_add_eq_iff.mp reached⟩
  · rintro ⟨lower, upper, reached⟩
    exact branchOffset_of_reached lower upper (delay_slot_add_eq_iff.mpr reached)

/-- The difference of two addresses in 32 bits, read as a signed number, is the distance
on the shorter side. -/
theorem toInt_difference (target pc : UInt32) :
    (target - pc - 4).toInt32.toInt = byteDistance target pc := by
  have signed : (target - pc - 4).toInt32.toInt =
      ((target - pc - 4).toNat : Int).bmod 0x100000000 :=
    BitVec.toInt_eq_toNat_bmod _
  have wrapped : ((target - pc - 4).toNat : Int) =
      ((target.toNat : Int) - pc.toNat - 4) % 0x100000000 := by
    have targetBound := target.toNat_lt
    have pcBound := pc.toNat_lt
    simp only [UInt32.toNat_sub, UInt32.reduceToNat]
    omega
  rw [signed, wrapped, byteDistance]
  exact Int.emod_bmod _ _

/-- A distance that is no multiple of four is reported in bytes, and one that is too far in
words. -/
theorem branchOffset_eq_error_iff {target pc : UInt32} {error : AssemblyError} :
    branchOffset target pc = .error error ↔
      (byteDistance target pc % 4 ≠ 0 ∧
          error = .outOfRange .branchOffset (byteDistance target pc)) ∨
        (byteDistance target pc % 4 = 0 ∧
          ¬ (-0x8000 ≤ byteDistance target pc / 4 ∧ byteDistance target pc / 4 ≤ 0x7FFF) ∧
          error = .outOfRange .branchOffset (byteDistance target pc / 4)) := by
  rw [branchOffset, ← byteDistance]
  dsimp only
  split
  · rename_i odd
    simp [odd, eq_comm]
  · rename_i even
    split
    · rename_i near
      simp [even, near]
    · rename_i far
      simp [Decidable.not_not.mp even, far, eq_comm]

/-- The offset in a word is a signed number of 16 bits. -/
theorem signExtend16_range (half : UInt32) :
    -0x8000 ≤ signExtend16 half ∧ signExtend16 half ≤ 0x7FFF := by
  have least := Int.le_bmod (x := half.toNat) (m := 0x10000) (by decide)
  have greatest := Int.bmod_lt (x := half.toNat) (m := 0x10000) (by decide)
  unfold signExtend16
  exact ⟨by omega, by omega⟩

/-- Every signed number of 16 bits is the offset in some word. -/
theorem exists_offset_word {words : Int} (lower : -0x8000 ≤ words) (upper : words ≤ 0x7FFF) :
    ∃ word : UInt32, signExtend16 (word &&& 0xFFFF) = words := by
  refine ⟨UInt32.ofInt words, signExtend16_of_residue ?_ lower upper⟩
  rw [toNat_lower_half, Field.read, Field.residue, Field.weight, Field.capacity, UInt32.ofInt,
    UInt32.toNat_ofNat']
  omega

theorem exists_branchReaches_iff {pc target : UInt32} :
    (∃ words, BranchReaches pc target words) ↔ ∃ word, branchTarget pc word = target := by
  constructor
  · rintro ⟨words, lower, upper, reached⟩
    obtain ⟨word, offset⟩ := exists_offset_word lower upper
    refine ⟨word, ?_⟩
    rw [branchTarget, offset]
    exact delay_slot_add_eq_iff.mpr reached
  · rintro ⟨word, reached⟩
    obtain ⟨lower, upper⟩ := signExtend16_range (word &&& 0xFFFF)
    exact ⟨_, lower, upper, delay_slot_add_eq_iff.mp reached⟩

/-! ## Jumps -/

/-- A number of 26 bits that leads a jump at `pc` to `target`: in its segment, which is
that of the delay slot, the target is the word with this number. -/
def JumpReaches (pc target : UInt32) (index : Nat) : Prop :=
  index < 0x4000000 ∧
    ((pc + 4 : UInt32) &&& 0xF0000000) ||| (UInt32.ofNat index <<< (2 : UInt32)) = target

theorem toNat_index {index : Nat} (small : index < 0x4000000) :
    (UInt32.ofNat index).toNat = index :=
  UInt32.toNat_ofNat_of_lt' (Nat.lt_trans small (by decide))

theorem jumpReaches_iff {pc target : UInt32} {index : Nat} :
    JumpReaches pc target index ↔
      segment target = segment (pc + 4) ∧ target.toNat % 4 = 0 ∧
        index = target.toNat % 0x10000000 / 4 := by
  have sum (small : index < 0x4000000) :
      (((pc + 4 : UInt32) &&& 0xF0000000) ||| (UInt32.ofNat index <<< (2 : UInt32))).toNat =
        0x10000000 * segment (pc + 4) + 4 * index := by
    have number := toNat_index small
    have shifted := toNat_shifted_index (UInt32.ofNat index) (by omega)
    rw [toNat_within_segment _ (by omega), shifted, number]
  constructor
  · rintro ⟨small, rfl⟩
    rw [segment, sum small]
    omega
  · rintro ⟨sameSegment, multiple, rfl⟩
    have small : target.toNat % 0x10000000 / 4 < 0x4000000 := by omega
    refine ⟨small, UInt32.toNat.inj ?_⟩
    rw [sum small, ← sameSegment, segment]
    omega

theorem jumpIndex_eq_ok_iff {target pc : UInt32} {index : Nat} :
    jumpIndex target pc = .ok index ↔ JumpReaches pc target index := by
  rw [jumpReaches_iff]
  constructor
  · exact jumpIndex_eq_ok
  · rintro ⟨sameSegment, multiple, rfl⟩
    rw [jumpIndex, if_neg (not_not_intro sameSegment), if_neg (not_not_intro multiple)]

theorem segment_bits_eq_iff {first second : UInt32} :
    first &&& 0xF0000000 = second &&& 0xF0000000 ↔ segment first = segment second := by
  rw [← UInt32.toNat_inj, toNat_segment_bits, toNat_segment_bits]
  omega

/-- The segment is looked at first. -/
theorem jumpIndex_eq_error_iff {target pc : UInt32} {error : AssemblyError} :
    jumpIndex target pc = .error error ↔
      (segment target ≠ segment (pc + 4) ∧ error = .jumpOutsideSegment target pc) ∨
        (segment target = segment (pc + 4) ∧ target.toNat % 4 ≠ 0 ∧
          error = .jumpMisaligned target) := by
  rw [jumpIndex]
  split
  · rename_i outside
    simp [outside, eq_comm]
  · rename_i inside
    split
    · rename_i misaligned
      simp [Decidable.not_not.mp inside, misaligned, eq_comm]
    · rename_i aligned
      simp [inside, aligned]

theorem exists_jumpReaches_iff {pc target : UInt32} :
    (∃ index, JumpReaches pc target index) ↔ ∃ word, jumpTarget pc word = target := by
  constructor
  · rintro ⟨index, small, reached⟩
    refine ⟨UInt32.ofNat index, ?_⟩
    have kept : UInt32.ofNat index &&& 0x3FFFFFF = UInt32.ofNat index := by
      apply UInt32.toNat.inj
      rw [toNat_jump_index, Field.read, Field.weight, Field.capacity, Nat.div_one,
        toNat_index small]
      exact Nat.mod_eq_of_lt small
    rw [jumpTarget, kept]
    exact reached
  · rintro ⟨word, reached⟩
    refine ⟨(word &&& 0x3FFFFFF).toNat, ?_, ?_⟩
    · rw [toNat_jump_index]
      exact Nat.mod_lt _ (by decide)
    · rw [UInt32.ofNat_toNat]
      exact reached

/-- An index that was found is packed with every opcode. -/
theorem exists_encode_of_jumpIndex {target pc : UInt32} {opcode index : Nat}
    (code : opcode ≤ 0x3F) (found : jumpIndex target pc = .ok index) :
    ∃ word, Concrete.encode (.jump opcode index) = .ok word := by
  cases outcome : Concrete.encode (.jump opcode index) with
  | ok word => exact ⟨word, rfl⟩
  | error error =>
      obtain ⟨item, listed, refused, -⟩ := Concrete.encode_eq_error outcome
      simp only [Concrete.fields, List.mem_cons, List.not_mem_nil, or_false] at listed
      rcases listed with rfl | rfl
      · refine absurd ⟨?_, ?_⟩ refused
        · exact Int.natCast_nonneg opcode
        · exact Int.ofNat_le.mpr code
      · exact absurd (accepts_of_jumpIndex found) refused

/-! ## Both ways -/

/-- Refusal is the absence of a result that a relation describes. -/
theorem exists_error_iff {ε α : Type} {outcome : Except ε α} {Describes : α → Prop}
    (result : ∀ value, outcome = .ok value ↔ Describes value) :
    (∃ error, outcome = .error error) ↔ ∀ value, ¬ Describes value := by
  cases outcome with
  | error error => simp [← result]
  | ok value => simp [← result]

/-- A result that a relation describes is the only one. -/
theorem exists_ok_iff {ε α : Type} {outcome : Except ε α} {Describes : α → Prop}
    (result : ∀ value, outcome = .ok value ↔ Describes value) :
    (∃ value, outcome = .ok value) ↔ ∃! value, Describes value := by
  simp only [← result]
  constructor
  · rintro ⟨value, found⟩
    exact ⟨value, found, fun other also => Except.ok.inj (also.symm.trans found)⟩
  · exact ExistsUnique.exists

/-- Finding an offset undoes the branch of the machine. An offset is found exactly if it is
a signed number of 16 bits that leads to the target, and there is one such number at most.
A branch is refused exactly if there is none, that is, if no word at its address branches
to the target. The error tells the difference of the addresses in 32 bits, as a signed
number: in bytes if it is no multiple of four, otherwise in words, which are out of
range. -/
theorem branchOffset_inverts_branchTarget (target pc : UInt32) :
    (∀ words, branchOffset target pc = .ok words ↔
        -0x8000 ≤ words ∧ words ≤ 0x7FFF ∧
          ((pc.toNat : Int) + 4 + 4 * words) % 0x100000000 = target.toNat) ∧
      ((∃ words, branchOffset target pc = .ok words) ↔ ∃! words, BranchReaches pc target words) ∧
      ((∃ error, branchOffset target pc = .error error) ↔
        ∀ words, ¬ BranchReaches pc target words) ∧
      ((∃ words, branchOffset target pc = .ok words) ↔ ∃ word, branchTarget pc word = target) ∧
      let distance := (target - pc - 4).toInt32.toInt
      ∀ error, branchOffset target pc = .error error ↔
        (distance % 4 ≠ 0 ∧ error = .outOfRange .branchOffset distance) ∨
          (distance % 4 = 0 ∧ ¬ (-0x8000 ≤ distance / 4 ∧ distance / 4 ≤ 0x7FFF) ∧
            error = .outOfRange .branchOffset (distance / 4)) := by
  refine ⟨fun _ => branchOffset_eq_ok_iff, exists_ok_iff fun _ => branchOffset_eq_ok_iff,
    exists_error_iff fun _ => branchOffset_eq_ok_iff, ?_, ?_⟩
  · rw [← exists_branchReaches_iff]
    exact exists_congr fun _ => branchOffset_eq_ok_iff
  · intro distance error
    rw [show distance = byteDistance target pc from toInt_difference target pc]
    exact branchOffset_eq_error_iff

/-- Finding an index undoes the jump of the machine. An index is found exactly if it is a
number of 26 bits that leads from the segment of the delay slot to the target, and there is
one such number at most. A jump is refused exactly if there is none, that is, if no word at
its address jumps to the target: for the segment whenever the top four bits of the target
and of the delay slot differ, and otherwise for the alignment. An index that is found can
be packed with every opcode, and the word jumps to the target. -/
theorem jumpIndex_inverts_jumpTarget (target pc : UInt32) :
    (∀ index, jumpIndex target pc = .ok index ↔
        index < 0x4000000 ∧
          ((pc + 4) &&& 0xF0000000) ||| (UInt32.ofNat index <<< (2 : UInt32)) = target) ∧
      ((∃ index, jumpIndex target pc = .ok index) ↔ ∃! index, JumpReaches pc target index) ∧
      ((∃ error, jumpIndex target pc = .error error) ↔
        ∀ index, ¬ JumpReaches pc target index) ∧
      ((∃ index, jumpIndex target pc = .ok index) ↔ ∃ word, jumpTarget pc word = target) ∧
      (let otherSegment := target &&& 0xF0000000 ≠ (pc + 4) &&& 0xF0000000
      ∀ error, jumpIndex target pc = .error error ↔
        (otherSegment ∧ error = .jumpOutsideSegment target pc) ∨
          (¬ otherSegment ∧ (∀ index, ¬ JumpReaches pc target index) ∧
            error = .jumpMisaligned target)) ∧
      ∀ index, jumpIndex target pc = .ok index → ∀ opcode ≤ 0x3F,
        ∃ word, Concrete.encode (.jump opcode index) = .ok word ∧
          jumpTarget pc word = target := by
  refine ⟨fun _ => jumpIndex_eq_ok_iff, exists_ok_iff fun _ => jumpIndex_eq_ok_iff,
    exists_error_iff fun _ => jumpIndex_eq_ok_iff, ?_, ?_, ?_⟩
  · rw [← exists_jumpReaches_iff]
    exact exists_congr fun _ => jumpIndex_eq_ok_iff
  · intro otherSegment error
    have apart : otherSegment ↔ segment target ≠ segment (pc + 4) :=
      not_congr segment_bits_eq_iff
    -- Within the segment, the alignment alone decides whether some index leads there.
    have inside (same : segment target = segment (pc + 4)) :
        (∀ index, ¬ JumpReaches pc target index) ↔ target.toNat % 4 ≠ 0 := by
      simp [jumpReaches_iff, same]
    rw [jumpIndex_eq_error_iff, apart, Decidable.not_not]
    constructor
    · rintro (outside | ⟨same, misaligned, told⟩)
      · exact .inl outside
      · exact .inr ⟨same, (inside same).mpr misaligned, told⟩
    · rintro (outside | ⟨same, unreached, told⟩)
      · exact .inl outside
      · exact .inr ⟨same, (inside same).mp unreached, told⟩
  · intro index found opcode code
    obtain ⟨word, packed⟩ := exists_encode_of_jumpIndex code found
    exact ⟨word, packed, jumpTarget_eq found packed⟩

/-- A jump from the end of a segment goes to the next one, where its delay slot lies. -/
theorem jumpIndex_inverts_jumpTarget_next_segment :
    jumpIndex 0x10000008 0x0FFFFFFC = .ok 2 ∧
      ∃ word, Concrete.encode (.jump 3 2) = .ok word ∧
        jumpTarget 0x0FFFFFFC word = 0x10000008 := by
  have found : jumpIndex 0x10000008 0x0FFFFFFC = .ok 2 :=
    toOption_eq_some_iff.mp (by decide +kernel)
  exact ⟨found,
    (jumpIndex_inverts_jumpTarget 0x10000008 0x0FFFFFFC).2.2.2.2.2 2 found 3 (by decide)⟩

end Mips32
