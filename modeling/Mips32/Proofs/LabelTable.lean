/-
# Laws of label tables

What creating and placing a label does to every other label. Placing is refused
exactly for a foreign label and for one that has an address already: addresses of 32
bits are never out of range. So a table only grows, and a label that has an address
keeps it.
-/
import Mips32.LabelTable
import Mips32.Proofs.Outcome

namespace Mips32.LabelTable

theorem ext_index {first second : Label} (same : first.index = second.index) :
    first = second := by
  cases first
  cases second
  exact congrArg Label.mk same

theorem slot?_eq_none_iff {table : LabelTable} {label : Label} :
    table.slot? label = none ↔ table.size ≤ label.index := by
  simp [slot?, size]

/-- A new label takes the slot after the last one. -/
theorem slot?_create (table : LabelTable) (name : Option String) (label : Label) :
    (table.create name).slot? label =
      if label = table.next then some ⟨name, none⟩ else table.slot? label := by
  have same : label = table.next ↔ label.index = table.slots.size :=
    ⟨fun equal => congrArg Label.index equal, ext_index⟩
  by_cases fresh : label.index = table.slots.size
  · simp [slot?, create, same, fresh]
  · simp [slot?, create, same, fresh, Array.getElem?_push]

theorem name?_create (table : LabelTable) (name : Option String) (label : Label) :
    (table.create name).name? label = if label = table.next then name else table.name? label := by
  rw [name?, slot?_create, name?]
  split <;> rfl

/-- Only labels of the table have names. -/
theorem index_lt_of_name? {table : LabelTable} {label : Label} {name : String}
    (named : table.name? label = some name) : label.index < table.size := by
  obtain ⟨slot, found, -⟩ := Option.bind_eq_some_iff.mp named
  have present : ¬ table.size ≤ label.index := fun outside => by
    rw [slot?_eq_none_iff.mpr outside] at found
    cases found
  exact Nat.lt_of_not_le present

theorem size_create (table : LabelTable) (name : Option String) :
    (table.create name).size = table.size + 1 := by
  simp [size, create]

/-- The address of a label, if it has one, is that of its slot. -/
theorem toOption_address (table : LabelTable) (label : Label) :
    (table.address label).toOption = (table.slot? label).bind (·.address) := by
  unfold address
  split
  · rename_i missing
    rw [missing]
    rfl
  · rename_i found
    rw [found]
    rfl
  · rename_i found
    rw [found]
    rfl

/-- A label without an address was not created in this table or is not placed yet. -/
theorem address_eq_error {table : LabelTable} {label : Label} {error : AssemblyError}
    (missing : table.address label = .error error) :
    error = .labelForeign label ∨ error = .labelUnplaced label := by
  unfold address at missing
  split at missing
  · cases missing
    exact .inl rfl
  · cases missing
    exact .inr rfl
  · cases missing

/-- Creating a label gives no label an address. -/
theorem toOption_address_create (table : LabelTable) (name : Option String) (label : Label) :
    ((table.create name).address label).toOption = (table.address label).toOption := by
  rw [toOption_address, toOption_address, slot?_create]
  split
  · rename_i fresh
    subst fresh
    have missing : table.slot? table.next = none := slot?_eq_none_iff.mpr (Nat.le_refl _)
    rw [missing]
    rfl
  · rfl

/-- An address of 32 bits is always in range. -/
theorem isUnsigned32_toNat (pc : UInt32) : IsUnsigned32 pc.toNat := by
  have bound := pc.toNat_lt
  exact ⟨by omega, by omega⟩

/-- Placing succeeds exactly for a label of the table that has no address. -/
theorem bind_eq_ok_iff {table placed : LabelTable} {label : Label} {pc : UInt32} :
    table.bind label pc.toNat = .ok placed ↔
      ∃ name, table.slot? label = some ⟨name, none⟩ ∧
        placed = ⟨table.slots.setIfInBounds label.index ⟨name, some pc⟩⟩ := by
  rw [bind, if_pos (isUnsigned32_toNat pc)]
  split
  · rename_i missing
    simp [missing]
  · rename_i found
    simp [found]
  · rename_i found
    simp [found, eq_comm]

theorem slot?_bind {table placed : LabelTable} {label : Label} {pc : UInt32}
    (bound : table.bind label pc.toNat = .ok placed) (other : Label) :
    placed.slot? other =
      if other = label then (table.slot? label).map fun slot => ⟨slot.name, some pc⟩
      else table.slot? other := by
  obtain ⟨name, found, rfl⟩ := bind_eq_ok_iff.mp bound
  have inside : label.index < table.slots.size := by
    have present : ¬ table.size ≤ label.index := fun outside => by
      rw [slot?_eq_none_iff.mpr outside] at found
      cases found
    exact Nat.lt_of_not_le present
  split
  · rename_i same
    subst same
    rw [found]
    simp [slot?, inside]
  · rename_i different
    have apart : label.index ≠ other.index := fun equal => different (ext_index equal.symm)
    simp [slot?, apart]

theorem size_bind {table placed : LabelTable} {label : Label} {pc : UInt32}
    (bound : table.bind label pc.toNat = .ok placed) : placed.size = table.size := by
  obtain ⟨name, -, rfl⟩ := bind_eq_ok_iff.mp bound
  simp [size]

/-- Placing a label changes no name. -/
theorem name?_bind {table placed : LabelTable} {label : Label} {pc : UInt32}
    (bound : table.bind label pc.toNat = .ok placed) (other : Label) :
    placed.name? other = table.name? other := by
  rw [name?, slot?_bind bound, name?]
  split
  · rename_i same
    rw [same]
    cases table.slot? label <;> rfl
  · rfl

/-- Placing a label gives it its address and changes no other one. -/
theorem toOption_address_bind {table placed : LabelTable} {label : Label} {pc : UInt32}
    (bound : table.bind label pc.toNat = .ok placed) (other : Label) :
    (placed.address other).toOption =
      if other = label then some pc else (table.address other).toOption := by
  obtain ⟨name, found, -⟩ := bind_eq_ok_iff.mp bound
  rw [toOption_address, toOption_address, slot?_bind bound]
  split
  · rw [found]
    rfl
  · rfl

/-- A label that is placed had no address before. -/
theorem toOption_address_of_bind {table placed : LabelTable} {label : Label} {pc : UInt32}
    (bound : table.bind label pc.toNat = .ok placed) :
    (table.address label).toOption = none := by
  obtain ⟨name, found, -⟩ := bind_eq_ok_iff.mp bound
  rw [toOption_address, found]
  rfl

/-- A label of the table without an address can be placed. -/
theorem exists_bind_of_unplaced {table : LabelTable} {label : Label} (pc : UInt32)
    (inside : label.index < table.size) (unplaced : (table.address label).toOption = none) :
    ∃ placed, table.bind label pc.toNat = .ok placed := by
  cases found : table.slot? label with
  | none => exact absurd (slot?_eq_none_iff.mp found) (Nat.not_le_of_lt inside)
  | some slot =>
      obtain ⟨name, address⟩ := slot
      rw [toOption_address, found] at unplaced
      cases address with
      | none => exact ⟨_, bind_eq_ok_iff.mpr ⟨name, found, rfl⟩⟩
      | some earlier => cases unplaced

/-! ## Growth -/

/-- A later state of a label table: every label is still there, under its name, and
with its address if it had one. -/
structure Extends (table after : LabelTable) : Prop where
  size : table.size ≤ after.size
  name : ∀ {label}, label.index < table.size → after.name? label = table.name? label
  address : ∀ {label address}, table.address label = .ok address →
    after.address label = .ok address

namespace Extends

theorem refl (table : LabelTable) : table.Extends table :=
  ⟨Nat.le_refl _, fun _ => rfl, id⟩

theorem trans {first second third : LabelTable} (early : first.Extends second)
    (late : second.Extends third) : first.Extends third where
  size := Nat.le_trans early.size late.size
  name inside :=
    (late.name (Nat.lt_of_lt_of_le inside early.size)).trans (early.name inside)
  address placed := late.address (early.address placed)

theorem create (table : LabelTable) (name : Option String) :
    table.Extends (table.create name) where
  size := by
    rw [size_create]
    exact Nat.le_succ _
  name := by
    intro label inside
    have old : label ≠ table.next := fun same => by
      rw [same] at inside
      exact Nat.lt_irrefl _ inside
    rw [name?_create, if_neg old]
  address := by
    intro label address placed
    rw [← toOption_eq_some_iff] at placed ⊢
    rw [toOption_address_create, placed]

theorem bind {table placed : LabelTable} {label : Label} {pc : UInt32}
    (bound : table.bind label pc.toNat = .ok placed) : table.Extends placed where
  size := Nat.le_of_eq (size_bind bound).symm
  name _ := name?_bind bound _
  address := by
    intro other address known
    rw [← toOption_eq_some_iff] at known ⊢
    have different : other ≠ label := fun same => by
      rw [same, toOption_address_of_bind bound] at known
      cases known
    rw [toOption_address_bind bound, if_neg different, known]

end Extends

end Mips32.LabelTable
