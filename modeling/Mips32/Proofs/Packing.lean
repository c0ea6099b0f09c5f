/-
# Reading fields back from packed words

Each field of an instruction word has a fixed place, whichever layout it occurs
in. A word that was packed holds every field of its instruction at that place,
so two instructions that are packed into the same word agree on every field they
share a place for. The argument is about rows of digits, each in a base of its
own; what makes it apply to words is that every layout is aligned, that is, the
place of a field is the product of the capacities of the fields after it.
-/
import Mips32.Encoding
import Mips32.Proofs.Outcome

namespace Mips32

namespace Field

/-- The weight of the lowest bit of a field in its word. -/
def weight : Field → Nat
  | opcode => 0x4000000
  | rs | fmt => 0x200000
  | rt | ft => 0x10000
  | rd | fs => 0x800
  | shift | fd | code => 0x40
  | funct | immediate | branchOffset | jumpIndex => 1

/-- The bits of a word at the place of a field. -/
def read (field : Field) (word : UInt32) : Nat :=
  word.toNat / field.weight % field.capacity

/-- What a field stores of a value: the value itself, or its two's complement. -/
def residue (field : Field) (value : Int) : Nat :=
  (value % field.capacity).toNat

theorem capacity_pos (field : Field) : 0 < field.capacity := by
  cases field <;> decide

theorem natCast_residue (field : Field) (value : Int) :
    (field.residue value : Int) = value % field.capacity := by
  have positive := field.capacity_pos
  exact Int.toNat_of_nonneg (Int.emod_nonneg _ (by omega))

theorem residue_lt_capacity (field : Field) (value : Int) :
    field.residue value < field.capacity := by
  have positive := field.capacity_pos
  have bound : value % field.capacity < field.capacity :=
    Int.emod_lt_of_pos _ (by omega)
  rw [← natCast_residue] at bound
  omega

/-- An unsigned value that a field accepts is stored as it is. -/
theorem residue_of_accepts {field : Field} {value : Nat} (accepted : field.Accepts value) :
    field.residue value = value := by
  have bound : (value : Int) ≤ field.greatest := accepted.2
  have room : field.greatest < field.capacity := by cases field <;> decide
  rw [residue, Int.emod_eq_of_lt (by omega) (by omega), Int.toNat_natCast]

end Field

/-- The number whose digits are the stored fields of a row, most significant
first, after the digits already in `bits`. -/
def rowValue (bits : Nat) (row : List (Field × Int)) : Nat :=
  row.foldl (fun bits item => bits * item.1.capacity + item.1.residue item.2) bits

/-- The number of values that a row of fields can take. -/
def rowCapacity (row : List (Field × Int)) : Nat :=
  row.foldr (fun item capacity => item.1.capacity * capacity) 1

/-- A row in which every field stands at its place. -/
def Aligned : List (Field × Int) → Prop
  | [] => True
  | item :: rest => item.1.weight = rowCapacity rest ∧ Aligned rest

theorem rowValue_cons (bits : Nat) (item : Field × Int) (rest : List (Field × Int)) :
    rowValue bits (item :: rest) =
      rowValue (bits * item.1.capacity + item.1.residue item.2) rest := rfl

theorem rowCapacity_nil : rowCapacity [] = 1 := by
  simp [rowCapacity]

theorem rowCapacity_cons (item : Field × Int) (rest : List (Field × Int)) :
    rowCapacity (item :: rest) = item.1.capacity * rowCapacity rest := by
  simp [rowCapacity]

/-- Packing succeeds exactly when every field accepts its value, and then it gives
the number of the row. -/
theorem packFields_eq_ok_iff {bits packed : Nat} {row : List (Field × Int)} :
    packFields bits row = .ok packed ↔
      (∀ item ∈ row, item.1.Accepts item.2) ∧ rowValue bits row = packed := by
  induction row generalizing bits with
  | nil => simp [packFields, rowValue]
  | cons item rest ih =>
      obtain ⟨field, value⟩ := item
      by_cases accepted : field.Accepts value
      · rw [packFields, if_pos accepted, ← Field.residue, ih, rowValue_cons]
        simp [accepted]
      · rw [packFields, if_neg accepted]
        simp [accepted]

/-- Packing is refused for a field that does not accept its value. -/
theorem packFields_eq_error {bits : Nat} {row : List (Field × Int)} {error : AssemblyError}
    (failed : packFields bits row = .error error) :
    ∃ item ∈ row, ¬ item.1.Accepts item.2 ∧ error = .outOfRange item.1 item.2 := by
  induction row generalizing bits with
  | nil => cases failed
  | cons item rest ih =>
      obtain ⟨field, value⟩ := item
      rw [packFields] at failed
      split at failed
      · obtain ⟨later, listed, refused⟩ := ih failed
        exact ⟨later, List.mem_cons_of_mem _ listed, refused⟩
      · rename_i refused
        cases failed
        exact ⟨(field, value), List.mem_cons_self, refused, rfl⟩

/-- The digits of a row stand below those that were there before it. -/
theorem rowValue_div_rowCapacity (bits : Nat) (row : List (Field × Int)) :
    rowValue bits row / rowCapacity row = bits := by
  induction row generalizing bits with
  | nil => simp [rowValue, rowCapacity]
  | cons item rest ih =>
      have digit := item.1.residue_lt_capacity item.2
      rw [rowValue_cons, rowCapacity_cons, Nat.mul_comm item.1.capacity,
        ← Nat.div_div_eq_div_mul, ih, Nat.add_comm,
        Nat.add_mul_div_right _ _ item.1.capacity_pos, Nat.div_eq_of_lt digit, Nat.zero_add]

/-- In an aligned row each digit is found at the place of its field. -/
theorem rowValue_read {bits : Nat} {row : List (Field × Int)} (aligned : Aligned row)
    {field : Field} {value : Int} (listed : (field, value) ∈ row) :
    rowValue bits row / field.weight % field.capacity = field.residue value := by
  induction row generalizing bits with
  | nil => cases listed
  | cons item rest ih =>
      rw [rowValue_cons]
      rcases List.mem_cons.mp listed with rfl | later
      · rw [aligned.1, rowValue_div_rowCapacity, Nat.add_comm, Nat.add_mul_mod_self_right,
          Nat.mod_eq_of_lt (field.residue_lt_capacity value)]
      · exact ih aligned.2 later

namespace Concrete

/-- Every layout is aligned. -/
theorem aligned_fields (instr : Concrete) : Aligned instr.fields := by
  cases instr <;>
    simp [fields, Aligned, rowCapacity_cons, rowCapacity_nil, Field.weight, Field.capacity]

/-- The fields of a layout fill a word. -/
theorem rowCapacity_fields {instr : Concrete} (laidOut : instr.fields ≠ []) :
    rowCapacity instr.fields = 0x100000000 := by
  cases instr with
  | data word => exact absurd rfl laidOut
  | nop => exact absurd rfl laidOut
  | _ => simp [fields, rowCapacity_cons, rowCapacity_nil, Field.capacity]

theorem encode_eq_map {instr : Concrete} (laidOut : instr.fields ≠ []) :
    instr.encode = (packFields 0 instr.fields).map UInt32.ofNat := by
  cases instr with
  | data word => exact absurd rfl laidOut
  | _ => rfl

/-- An instruction with fields is packed into the word of its row. -/
theorem encode_eq_ok_iff {instr : Concrete} {word : UInt32} (laidOut : instr.fields ≠ []) :
    instr.encode = .ok word ↔
      (∀ item ∈ instr.fields, item.1.Accepts item.2) ∧
        rowValue 0 instr.fields = word.toNat := by
  have bound : rowValue 0 instr.fields < UInt32.size := by
    have top := rowValue_div_rowCapacity 0 instr.fields
    rw [rowCapacity_fields laidOut] at top
    exact (Nat.div_eq_zero_iff_lt (by decide)).mp top
  rw [encode_eq_map laidOut, map_eq_ok_iff]
  constructor
  · rintro ⟨bits, packed, rfl⟩
    obtain ⟨accepted, rfl⟩ := packFields_eq_ok_iff.mp packed
    exact ⟨accepted, (UInt32.toNat_ofNat_of_lt' bound).symm⟩
  · rintro ⟨accepted, value⟩
    exact ⟨_, packFields_eq_ok_iff.mpr ⟨accepted, rfl⟩, by rw [value, UInt32.ofNat_toNat]⟩

/-- A packed word holds each field of its instruction at the place of the field,
and the field accepted its value. -/
theorem read_of_encode {instr : Concrete} {word : UInt32} (packed : instr.encode = .ok word)
    {field : Field} {value : Int} (listed : (field, value) ∈ instr.fields) :
    field.Accepts value ∧ field.read word = field.residue value := by
  obtain ⟨accepted, row⟩ := (encode_eq_ok_iff (List.ne_nil_of_mem listed)).mp packed
  refine ⟨accepted _ listed, ?_⟩
  rw [Field.read, ← row]
  exact rowValue_read instr.aligned_fields listed

/-- An instruction that cannot be packed has a field that does not accept its
value. -/
theorem encode_eq_error {instr : Concrete} {error : AssemblyError}
    (failed : instr.encode = .error error) :
    ∃ item ∈ instr.fields, ¬ item.1.Accepts item.2 ∧ error = .outOfRange item.1 item.2 := by
  have laidOut : instr.fields ≠ [] := by
    cases instr with
    | data word => cases failed
    | nop => cases failed
    | _ => exact List.cons_ne_nil _ _
  rw [encode_eq_map laidOut, map_eq_error_iff] at failed
  exact packFields_eq_error failed

end Concrete

end Mips32
