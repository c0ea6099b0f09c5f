/-
# Packing loses nothing

Packing and reading back are inverse to each other. A word that an instruction was packed
into gives every field back by shifting and masking, an immediate modulo 2^16. In the other
direction, four of the formats have fields that fill the word and accept whatever their bits
can hold, so every word is the word of one instruction of each. The code of a trap accepts
fewer values than its bits can take, and that format is left out.

An instruction that cannot be packed is refused for the first of its fields that is out of
range.
-/
import Mathlib.Logic.ExistsUnique
import Mips32.Proofs.Packing

namespace Mips32

/-! ## Shifting and masking -/

namespace Field

/-- The number of the lowest bit of a field. -/
def lowest : Field → UInt32
  | opcode => 26
  | rs | fmt => 21
  | rt | ft => 16
  | rd | fs => 11
  | shift | fd | code => 6
  | funct | immediate | branchOffset | jumpIndex => 0

/-- The bits of the greatest value that a field accepts. -/
def mask : Field → UInt32
  | opcode | funct => 0x3F
  | rs | rt | rd | shift | fmt | ft | fs | fd => 0x1F
  | code | immediate | branchOffset => 0xFFFF
  | jumpIndex => 0x3FFFFFF

/-- The number at the place of a field, by shifting and masking. -/
def extract (field : Field) (word : UInt32) : Nat :=
  (word >>> field.lowest &&& field.mask).toNat

theorem extract_eq (field : Field) (word : UInt32) :
    field.extract word = word.toNat / field.weight % (field.greatest + 1) := by
  rw [extract, UInt32.toNat_and, UInt32.toNat_shiftRight, Nat.shiftRight_eq_div_pow]
  cases field with
  | opcode | funct => exact Nat.and_two_pow_sub_one_eq_mod _ 6
  | rs | rt | rd | shift | fmt | ft | fs | fd => exact Nat.and_two_pow_sub_one_eq_mod _ 5
  | code | immediate | branchOffset => exact Nat.and_two_pow_sub_one_eq_mod _ 16
  | jumpIndex => exact Nat.and_two_pow_sub_one_eq_mod _ 26

theorem extract_eq_read_mod (field : Field) (word : UInt32) :
    field.extract word = field.read word % (field.greatest + 1) := by
  have divides : field.greatest + 1 ∣ field.capacity := by cases field <;> decide
  rw [extract_eq, read, Nat.mod_mod_of_dvd _ divides]

theorem extract_eq_read {field : Field} (full : field ≠ code) (word : UInt32) :
    field.extract word = field.read word := by
  have capacity : field.greatest + 1 = field.capacity := by
    cases field <;> first | rfl | exact absurd rfl full
  rw [extract_eq, capacity, read]

/-- A field accepts what is read at its place. -/
theorem accepts_extract (field : Field) (word : UInt32) : field.Accepts (field.extract word) := by
  have bound : field.extract word < field.greatest + 1 := by
    rw [extract_eq]
    exact Nat.mod_lt _ (Nat.succ_pos _)
  have least : field.least ≤ 0 := by cases field <;> decide
  constructor
  · omega
  · omega

end Field

/-- A row whose digits are those of a number stands for the number. -/
theorem rowValue_of_read {number : Nat} {row : List (Field × Int)} (aligned : Aligned row)
    (stored : ∀ item ∈ row, item.1.residue item.2 = number / item.1.weight % item.1.capacity) :
    rowValue (number / rowCapacity row) row = number := by
  induction row with
  | nil =>
      rw [rowCapacity_nil, Nat.div_one]
      rfl
  | cons item rest ih =>
      obtain ⟨place, alignedRest⟩ := aligned
      obtain ⟨first, others⟩ := List.forall_mem_cons.mp stored
      -- The digits in front and the first digit are the number without the digits behind.
      rw [rowValue_cons, rowCapacity_cons, first, place, Nat.mul_comm item.1.capacity,
        ← Nat.div_div_eq_div_mul, Nat.mul_comm, Nat.div_add_mod]
      exact ih alignedRest others

/-- Packing is refused for the first field that does not accept its value. -/
theorem packFields_eq_error_iff {bits : Nat} {row : List (Field × Int)} {error : AssemblyError} :
    packFields bits row = .error error ↔
      ∃ field value, row.find? (fun item => ¬ item.1.Accepts item.2) = some (field, value) ∧
        error = .outOfRange field value := by
  induction row generalizing bits with
  | nil => simp [packFields]
  | cons item rest ih =>
      obtain ⟨field, value⟩ := item
      by_cases accepted : field.Accepts value
      · rw [packFields, if_pos accepted, ih, List.find?_cons_of_neg (by simpa using accepted)]
      · rw [packFields, if_neg accepted, List.find?_cons_of_pos (by simpa using accepted)]
        constructor
        · rintro ⟨rfl⟩
          exact ⟨field, value, rfl, rfl⟩
        · rintro ⟨_, _, ⟨rfl⟩, rfl⟩
          rfl

/-! ## Formats -/

/-- The formats of instructions. -/
inductive WordFormat
  | register
  | immediate
  | jump
  | trap
  | float
  | data
  | nop
  deriving DecidableEq

/-- The instruction of a format that a word holds. -/
def WordFormat.decode (word : UInt32) : WordFormat → Concrete
  | register => .register (Field.opcode.extract word) (Field.rs.extract word)
      (Field.rt.extract word) (Field.rd.extract word) (Field.shift.extract word)
      (Field.funct.extract word)
  | immediate => .immediate (Field.opcode.extract word) (Field.rs.extract word)
      (Field.rt.extract word) (Field.immediate.extract word)
  | jump => .jump (Field.opcode.extract word) (Field.jumpIndex.extract word)
  | trap => .trap (Field.opcode.extract word) (Field.code.extract word)
      (Field.funct.extract word)
  | float => .float (Field.opcode.extract word) (Field.fmt.extract word)
      (Field.ft.extract word) (Field.fs.extract word) (Field.fd.extract word)
      (Field.funct.extract word)
  | data => .data word
  | nop => .nop

namespace Concrete

/-- The format of an instruction. -/
def format : Concrete → WordFormat
  | .register .. => .register
  | .immediate .. => .immediate
  | .jump .. => .jump
  | .trap .. => .trap
  | .float .. => .float
  | .data _ => .data
  | .nop => .nop

/-- Every field of an instruction is within its width. -/
def InRange : Concrete → Prop
  | .register opcode rs rt rd shift funct =>
    opcode ≤ 0x3F ∧ rs ≤ 0x1F ∧ rt ≤ 0x1F ∧ rd ≤ 0x1F ∧ shift ≤ 0x1F ∧ funct ≤ 0x3F
  | .immediate opcode rs rt value =>
    opcode ≤ 0x3F ∧ rs ≤ 0x1F ∧ rt ≤ 0x1F ∧ -0x8000 ≤ value ∧ value ≤ 0xFFFF
  | .jump opcode index => opcode ≤ 0x3F ∧ index ≤ 0x3FFFFFF
  | .trap opcode code funct => opcode ≤ 0x3F ∧ code ≤ 0xFFFF ∧ funct ≤ 0x3F
  | .float opcode fmt ft fs fd funct =>
    opcode ≤ 0x3F ∧ fmt ≤ 0x1F ∧ ft ≤ 0x1F ∧ fs ≤ 0x1F ∧ fd ≤ 0x1F ∧ funct ≤ 0x3F
  | .data _ | .nop => True

/-- An instruction with its immediate modulo 2^16. -/
def reduced : Concrete → Concrete
  | .immediate opcode rs rt value => .immediate opcode rs rt (value % 0x10000)
  | instr => instr

theorem inRange_iff (instr : Concrete) :
    instr.InRange ↔ ∀ item ∈ instr.fields, item.1.Accepts item.2 := by
  cases instr with
  | data | nop => exact iff_of_true trivial (List.forall_mem_nil _)
  | _ =>
      simp only [InRange, fields, List.forall_mem_cons, List.not_mem_nil, false_implies,
        implies_true, and_true, Field.Accepts, Field.least, Field.greatest]
      omega

/-! ## Packing and reading back -/

theorem exists_encode_iff (instr : Concrete) :
    (∃ word, instr.encode = .ok word) ↔ instr.InRange := by
  rw [inRange_iff]
  constructor
  · rintro ⟨word, packed⟩ item listed
    exact (read_of_encode packed listed).1
  · intro accepted
    cases outcome : instr.encode with
    | ok word => exact ⟨word, rfl⟩
    | error error =>
        obtain ⟨item, listed, refused, -⟩ := encode_eq_error outcome
        exact absurd (accepted item listed) refused

theorem encode_eq_error_iff (instr : Concrete) (error : AssemblyError) :
    instr.encode = .error error ↔
      ∃ field value, instr.fields.find? (fun item => ¬ item.1.Accepts item.2) =
        some (field, value) ∧ error = .outOfRange field value := by
  cases instr with
  | data word => simp [encode, fields]
  | nop => simp [encode, fields, packFields, Except.map]
  | _ => exact map_eq_error_iff.trans packFields_eq_error_iff

/-- Shifting and masking a packed word gives an unsigned field back. -/
theorem extract_of_encode {instr : Concrete} {word : UInt32} (packed : instr.encode = .ok word)
    {field : Field} {value : Nat} (listed : (field, (value : Int)) ∈ instr.fields) :
    field.extract word = value := by
  obtain ⟨accepted, stored⟩ := read_of_encode packed listed
  rw [Field.extract_eq_read_mod, stored, Field.residue_of_accepts accepted]
  have bound : (value : Int) ≤ field.greatest := accepted.2
  exact Nat.mod_eq_of_lt (by omega)

/-- What is read back from a packed word is the instruction, with its immediate modulo
2^16. -/
theorem decode_of_encode {instr : Concrete} {word : UInt32} (packed : instr.encode = .ok word) :
    instr.format.decode word = instr.reduced := by
  have natural {field : Field} {value : Nat} (listed : (field, (value : Int)) ∈ instr.fields) :
      field.extract word = value :=
    extract_of_encode packed listed
  cases instr with
  | immediate opcode rs rt value =>
      have stored : Field.immediate.extract word = Field.immediate.residue value := by
        rw [Field.extract_eq_read (by decide)]
        exact (read_of_encode packed (by simp [fields])).2
      simp only [format, WordFormat.decode, reduced, Instr.immediate.injEq]
      refine ⟨natural (by simp [fields]), natural (by simp [fields]),
        natural (by simp [fields]), ?_⟩
      rw [stored, Field.natCast_residue]
      rfl
  | data bits =>
      cases packed
      rfl
  | nop => rfl
  | _ =>
      simp only [format, WordFormat.decode, reduced]
      congr 1 <;> exact natural (by simp [fields])

/-- An immediate counts modulo 2^16. -/
theorem encode_reduced {instr : Concrete} (inRange : instr.InRange) :
    instr.reduced.encode = instr.encode := by
  cases instr with
  | immediate opcode rs rt value =>
      have laidOut (value : Int) : fields (.immediate opcode rs rt value) ≠ [] :=
        List.cons_ne_nil _ _
      obtain ⟨word, packed⟩ := (exists_encode_iff _).mpr inRange
      have reducedInRange : (reduced (.immediate opcode rs rt value)).InRange := by
        obtain ⟨opcodeFits, rsFits, rtFits, -⟩ := inRange
        exact ⟨opcodeFits, rsFits, rtFits, by omega, by omega⟩
      have row : rowValue 0 (reduced (.immediate opcode rs rt value)).fields =
          rowValue 0 (fields (.immediate opcode rs rt value)) := by
        simp [reduced, fields, rowValue, Field.residue, Field.capacity]
      rw [packed]
      exact (encode_eq_ok_iff (laidOut _)).mpr ⟨(inRange_iff _).mp reducedInRange,
        row.trans ((encode_eq_ok_iff (laidOut value)).mp packed).2⟩
  | _ => rfl

end Concrete

namespace WordFormat

/-- The formats whose fields accept all that their bits can hold and fill the word. -/
def full : List WordFormat :=
  [register, immediate, jump, float]

theorem format_decode (format : WordFormat) (word : UInt32) :
    (format.decode word).format = format := by
  cases format <;> rfl

theorem extract_of_decode (format : WordFormat) (word : UInt32) :
    ∀ item ∈ (format.decode word).fields, item.2 = item.1.extract word := by
  cases format <;> simp [decode, Concrete.fields]

/-- What is read from a word is packed into the word. -/
theorem encode_decode {format : WordFormat} (fills : format ∈ full) (word : UInt32) :
    (format.decode word).encode = .ok word := by
  have laidOut : (format.decode word).fields ≠ [] ∧
      ∀ item ∈ (format.decode word).fields, item.1 ≠ .code := by
    simp only [full, List.mem_cons, List.not_mem_nil, or_false] at fills
    rcases fills with rfl | rfl | rfl | rfl <;> simp [decode, Concrete.fields]
  have stored : ∀ item ∈ (format.decode word).fields,
      item.1.residue item.2 = word.toNat / item.1.weight % item.1.capacity := by
    intro item listed
    rw [extract_of_decode format word item listed,
      Field.residue_of_accepts (item.1.accepts_extract word),
      Field.extract_eq_read (laidOut.2 item listed), Field.read]
  have whole := rowValue_of_read (format.decode word).aligned_fields stored
  rw [Concrete.rowCapacity_fields laidOut.1, Nat.div_eq_of_lt word.toNat_lt] at whole
  refine (Concrete.encode_eq_ok_iff laidOut.1).mpr ⟨?_, whole⟩
  intro item listed
  rw [extract_of_decode format word item listed]
  exact item.1.accepts_extract word

end WordFormat

namespace Concrete

/-- Packing is exact. An instruction is packed exactly if every field is within its width,
and refused for its first field that is not. Reading a packed word back gives the
instruction, so within a format instructions with the same word are the same up to the
immediate modulo 2^16. Every word is that of one instruction in each of the formats that
fill a word. -/
theorem packing_exact :
    (∀ instr : Concrete,
      ((∃ word, instr.encode = .ok word) ↔ instr.InRange) ∧
      (∀ error, instr.encode = .error error ↔
        ∃ field value, instr.fields.find? (fun item => ¬ item.1.Accepts item.2) =
          some (field, value) ∧ error = .outOfRange field value) ∧
      ∀ word, instr.encode = .ok word → instr.format.decode word = instr.reduced) ∧
    (∀ first second : Concrete, first.format = second.format → first.InRange → second.InRange →
      (first.encode = second.encode ↔ first.reduced = second.reduced)) ∧
    ∀ word, ∀ format ∈ [WordFormat.register, .immediate, .jump, .float],
      ∃! instr : Concrete, instr.format = format ∧ instr.InRange ∧ instr.reduced = instr ∧
        instr.encode = .ok word := by
  refine ⟨?_, ?_, ?_⟩
  · exact fun instr =>
      ⟨instr.exists_encode_iff, instr.encode_eq_error_iff, fun word => decode_of_encode⟩
  · intro first second sameFormat firstInRange secondInRange
    constructor
    · intro sameWord
      obtain ⟨word, packed⟩ := first.exists_encode_iff.mpr firstInRange
      rw [← decode_of_encode packed, ← decode_of_encode (sameWord ▸ packed), sameFormat]
    · intro same
      rw [← encode_reduced firstInRange, same, encode_reduced secondInRange]
  · intro word format fills
    -- The instruction that the word holds is one, and reading the word gives any other.
    have packed := WordFormat.encode_decode fills word
    have sameFormat := format.format_decode word
    refine ⟨format.decode word,
      ⟨sameFormat, (exists_encode_iff _).mp ⟨word, packed⟩, ?_, packed⟩, ?_⟩
    · rw [← decode_of_encode packed, sameFormat]
    · rintro other ⟨rfl, -, canonical, packedOther⟩
      rw [decode_of_encode packedOther, canonical]

end Concrete

end Mips32
