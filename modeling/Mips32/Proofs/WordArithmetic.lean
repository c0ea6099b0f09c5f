/-
# In the arithmetic of words

Offsets, indices and packed words are defined on numbers, where they are easy to reason
about. A machine finds them by operations on words of 32 bits: differences that go around,
masks and shifts. Here each of the three definitions is shown to be the same as one that uses
nothing but such operations. Offsets and indices agree on the errors too; words agree wherever
the fields accept their values, and otherwise there is no word.
-/
import Mips32.Proofs.ExactPacking
import Mips32.Proofs.TargetsInReach

namespace Mips32

/-! ## Offsets -/

/-- The distance in words of a branch, by the operations on signed words. -/
def branchOffsetBits (target pc : UInt32) : Except AssemblyError Int32 :=
  let delta := (target - pc - 4).toInt32
  if delta &&& 3 ≠ 0 then .error (.outOfRange .branchOffset delta.toInt)
  else
    let words := delta >>> 2
    if words < -0x8000 ∨ words > 0x7FFF then .error (.outOfRange .branchOffset words.toInt)
    else .ok words

theorem toInt_shiftRight_two (number : Int32) : (number >>> 2).toInt = number.toInt / 4 := by
  have shifted : (number >>> 2).toInt = (number.toBitVec.sshiftRight 2).toInt := rfl
  rw [shifted, BitVec.toInt_sshiftRight]
  exact Int.shiftRight_eq_div_pow _ 2

/-- The two lowest bits tell the remainder by four, whatever the sign. -/
theorem and_three_eq_zero_iff (number : Int32) : number &&& 3 = 0 ↔ number.toInt % 4 = 0 := by
  have signed : number.toInt = (number.toBitVec.toNat : Int).bmod 0x100000000 :=
    BitVec.toInt_eq_toNat_bmod _
  have around := Int.bmod_emod (x := (number.toBitVec.toNat : Int)) (m := 0x100000000)
  have masked : (number &&& 3).toBitVec.toNat = number.toBitVec.toNat % 4 := by
    rw [Int32.toBitVec_and, BitVec.toNat_and]
    exact Nat.and_two_pow_sub_one_eq_mod _ 2
  rw [← Int32.toBitVec_inj, ← BitVec.toNat_inj, masked, signed]
  show _ = 0 ↔ _
  omega

/-- The offset of a branch, in numbers and in words. -/
theorem branchOffset_eq_bits (target pc : UInt32) :
    branchOffset target pc = (branchOffsetBits target pc).map Int32.toInt := by
  rw [branchOffset, branchOffsetBits, ← byteDistance, ← toInt_difference]
  generalize (target - pc - 4).toInt32 = delta
  dsimp only
  by_cases multiple : delta.toInt % 4 = 0
  · have far : delta >>> 2 < -0x8000 ∨ delta >>> 2 > 0x7FFF ↔
        ¬ (-0x8000 ≤ delta.toInt / 4 ∧ delta.toInt / 4 ≤ 0x7FFF) := by
      have least : (-0x8000 : Int32).toInt = -0x8000 := rfl
      have greatest : (0x7FFF : Int32).toInt = 0x7FFF := rfl
      rw [gt_iff_lt, Int32.lt_iff_toInt_lt, Int32.lt_iff_toInt_lt, toInt_shiftRight_two, least,
        greatest]
      omega
    rw [if_neg (not_not_intro multiple),
      if_neg (not_not_intro ((and_three_eq_zero_iff delta).mpr multiple))]
    by_cases near : -0x8000 ≤ delta.toInt / 4 ∧ delta.toInt / 4 ≤ 0x7FFF
    · rw [if_pos near, if_neg (mt far.mp (not_not_intro near)), Except.map,
        toInt_shiftRight_two]
    · rw [if_neg near, if_pos (far.mpr near), Except.map, toInt_shiftRight_two]
  · rw [if_pos multiple, if_pos (mt (and_three_eq_zero_iff delta).mp multiple), Except.map]

/-! ## Indices -/

/-- The index of a jump, by masks and a shift. -/
def jumpIndexBits (target pc : UInt32) : Except AssemblyError UInt32 :=
  if target &&& 0xF0000000 ≠ (pc + 4) &&& 0xF0000000 then
    .error (.jumpOutsideSegment target pc)
  else if target &&& 3 ≠ 0 then .error (.jumpMisaligned target)
  else .ok ((target &&& ~~~0xF0000000) >>> 2)

theorem toNat_lowest_bits (address : UInt32) : (address &&& 3).toNat = address.toNat % 4 := by
  rw [UInt32.toNat_and]
  exact Nat.and_two_pow_sub_one_eq_mod address.toNat 2

theorem toNat_index_bits (address : UInt32) :
    ((address &&& ~~~0xF0000000) >>> 2).toNat = address.toNat % 0x10000000 / 4 := by
  have within : (address &&& ~~~0xF0000000).toNat = address.toNat % 0x10000000 := by
    rw [UInt32.toNat_and]
    exact Nat.and_two_pow_sub_one_eq_mod address.toNat 28
  rw [UInt32.toNat_shiftRight, within]
  exact Nat.shiftRight_eq_div_pow _ 2

/-- The index of a jump, in numbers and in words. -/
theorem jumpIndex_eq_bits (target pc : UInt32) :
    jumpIndex target pc = (jumpIndexBits target pc).map UInt32.toNat := by
  have inside : target &&& 0xF0000000 = (pc + 4) &&& 0xF0000000 ↔
      segment target = segment (pc + 4) := segment_bits_eq_iff
  have aligned : target &&& 3 = 0 ↔ target.toNat % 4 = 0 := by
    rw [← UInt32.toNat_inj, toNat_lowest_bits]
    rfl
  rw [jumpIndex, jumpIndexBits]
  by_cases same : segment target = segment (pc + 4)
  · rw [if_neg (not_not_intro same), if_neg (not_not_intro (inside.mpr same))]
    by_cases multiple : target.toNat % 4 = 0
    · rw [if_neg (not_not_intro multiple), if_neg (not_not_intro (aligned.mpr multiple)),
        Except.map, toNat_index_bits]
    · rw [if_pos multiple, if_pos (mt aligned.mp multiple), Except.map]
  · rw [if_pos same, if_pos (mt inside.mp same), Except.map]

/-! ## Packed words -/

/-- A row of fields as a word, each field shifted to its place. -/
def rowBits : List (Field × Int) → UInt32
  | [] => 0
  | (field, value) :: rest =>
    (UInt32.ofNat (field.residue value) <<< field.lowest) ||| rowBits rest

/-- The digits in front of a field and the digit of the field do not meet. -/
theorem Field.append_eq_or (field : Field) (bits : Nat) (value : Int) :
    bits * field.capacity + field.residue value =
      bits * field.capacity ||| field.residue value := by
  have digit := field.residue_lt_capacity value
  rw [Nat.mul_comm]
  generalize field.residue value = stored at digit
  cases field with
  | opcode | funct => exact Nat.two_pow_add_eq_or_of_lt (i := 6) digit bits
  | rs | rt | rd | shift | fmt | ft | fs | fd =>
      exact Nat.two_pow_add_eq_or_of_lt (i := 5) digit bits
  | code => exact Nat.two_pow_add_eq_or_of_lt (i := 20) digit bits
  | immediate | branchOffset => exact Nat.two_pow_add_eq_or_of_lt (i := 16) digit bits
  | jumpIndex => exact Nat.two_pow_add_eq_or_of_lt (i := 26) digit bits

/-- A number times the weight of a field is the number shifted to the place of the field. -/
theorem Field.mul_weight (field : Field) (number : Nat) :
    number * field.weight = number <<< field.lowest.toNat := by
  rw [Nat.shiftLeft_eq]
  cases field <;> rfl

theorem Field.ofNat_mul_weight (field : Field) (number : Nat) :
    UInt32.ofNat (number * field.weight) = UInt32.ofNat number <<< field.lowest := by
  have inside : field.lowest.toNat < 32 := by cases field <;> decide
  rw [field.mul_weight, UInt32.ofNat_shiftLeft _ _ inside, UInt32.ofNat_toNat]

/-- The sum of the digits of an aligned row is their union. -/
theorem ofNat_rowValue {row : List (Field × Int)} (aligned : Aligned row) (bits : Nat) :
    UInt32.ofNat (rowValue bits row) = UInt32.ofNat (bits * rowCapacity row) ||| rowBits row := by
  induction row generalizing bits with
  | nil =>
      rw [rowCapacity_nil, Nat.mul_one, rowBits, UInt32.or_zero]
      rfl
  | cons item rest ih =>
      obtain ⟨field, value⟩ := item
      obtain ⟨place, alignedRest⟩ := aligned
      have spread : (bits * field.capacity ||| field.residue value) * field.weight =
          bits * field.capacity * field.weight ||| field.residue value * field.weight := by
        rw [field.mul_weight, field.mul_weight, field.mul_weight, Nat.shiftLeft_or_distrib]
      rw [rowValue_cons, ih alignedRest, ← place, field.append_eq_or, spread, UInt32.ofNat_or,
        field.ofNat_mul_weight (field.residue value), UInt32.or_assoc, rowCapacity_cons, ← place,
        Nat.mul_assoc]
      rfl

/-- A row whose fields accept their values is packed by shifts and unions. -/
theorem packFields_eq_bits {row : List (Field × Int)} (aligned : Aligned row)
    (accepted : ∀ item ∈ row, item.1.Accepts item.2) :
    (packFields 0 row).map UInt32.ofNat = .ok (rowBits row) := by
  rw [packFields_eq_ok_iff.mpr ⟨accepted, rfl⟩, Except.map, ofNat_rowValue aligned, Nat.zero_mul]
  exact congrArg Except.ok UInt32.zero_or

theorem Field.ofNat_residue {field : Field} {value : Nat} (accepted : field.Accepts value) :
    UInt32.ofNat (field.residue value) = UInt32.ofNat value := by
  rw [residue_of_accepts accepted]

/-- An immediate is cut to its 16 low bits. -/
theorem Field.ofNat_residue_immediate (value : Int) :
    UInt32.ofNat (immediate.residue value) = UInt32.ofInt value &&& 0xFFFF := by
  have stored := immediate.natCast_residue value
  have small : immediate.residue value < UInt32.size :=
    Nat.lt_trans (immediate.residue_lt_capacity value) (by decide)
  rw [capacity] at stored
  rw [← UInt32.toNat_inj, toNat_lower_half, UInt32.toNat_ofNat_of_lt' small, read, weight,
    capacity, UInt32.ofInt, UInt32.toNat_ofNat']
  omega

/-- The word of an instruction, by shifts and unions. -/
def Concrete.bits : Concrete → UInt32
  | .register opcode rs rt rd shift funct =>
    (UInt32.ofNat opcode <<< 26) ||| (UInt32.ofNat rs <<< 21) ||| (UInt32.ofNat rt <<< 16) |||
      (UInt32.ofNat rd <<< 11) ||| (UInt32.ofNat shift <<< 6) ||| UInt32.ofNat funct
  | .immediate opcode rs rt value =>
    (UInt32.ofNat opcode <<< 26) ||| (UInt32.ofNat rs <<< 21) ||| (UInt32.ofNat rt <<< 16) |||
      (UInt32.ofInt value &&& 0xFFFF)
  | .jump opcode index => (UInt32.ofNat opcode <<< 26) ||| UInt32.ofNat index
  | .trap opcode code funct =>
    (UInt32.ofNat opcode <<< 26) ||| (UInt32.ofNat code <<< 6) ||| UInt32.ofNat funct
  | .float opcode fmt ft fs fd funct =>
    (UInt32.ofNat opcode <<< 26) ||| (UInt32.ofNat fmt <<< 21) ||| (UInt32.ofNat ft <<< 16) |||
      (UInt32.ofNat fs <<< 11) ||| (UInt32.ofNat fd <<< 6) ||| UInt32.ofNat funct
  | .data word => word
  | .nop => 0

/-- An instruction whose fields accept their values is packed into its bits. -/
theorem Concrete.encode_eq_bits {instr : Concrete}
    (accepted : ∀ item ∈ instr.fields, item.1.Accepts item.2) :
    instr.encode = .ok instr.bits := by
  have packed := packFields_eq_bits instr.aligned_fields accepted
  cases instr with
  | data word => rfl
  | nop => rfl
  | immediate opcode rs rt value =>
      refine packed.trans ?_
      simp only [fields, List.forall_mem_cons] at accepted
      simp [fields, rowBits, bits, Field.lowest, Field.ofNat_residue accepted.1,
        Field.ofNat_residue accepted.2.1, Field.ofNat_residue accepted.2.2.1,
        Field.ofNat_residue_immediate, UInt32.or_assoc]
  | _ =>
      refine packed.trans ?_
      simp only [fields, List.forall_mem_cons] at accepted
      simp [fields, rowBits, bits, Field.lowest, Field.ofNat_residue, accepted, UInt32.or_assoc]

end Mips32
