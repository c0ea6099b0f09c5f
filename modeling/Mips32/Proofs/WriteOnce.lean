/-
# Label tables are write-once maps

Labels are numbered in the order of creation, and the first address that a label is bound
to stays its address for good. Both are said against the history of a table, which is the
calls that were made on it and their answers. The names given at creation and the first
successful binding of each label are all that matters of a history: they tell which calls
succeed, for what cause a call is refused, and what every question about the table is
answered. Calls that are refused leave no trace, whatever they are refused for.
-/
import Mathlib.Data.List.Induction
import Mips32.Proofs.LabelTable

namespace Mips32.LabelTable

/-! ## Calls -/

/-- Something asked of a label table. -/
inductive Call
  /-- Create a label, with or without a name. -/
  | create (name : Option String)
  /-- Bind a label to an address, which may be any number. -/
  | bind (label : Label) (address : Int)

/-- What a call is answered: the label that was created, nothing for a label that was
bound, or the cause of a refusal. -/
abbrev Answer := Except AssemblyError (Option Label)

/-- Goes on with the table in which a label was bound, if it was. -/
def adopt (table : LabelTable) : Except AssemblyError LabelTable → LabelTable × Answer
  | .ok bound => (bound, .ok none)
  | .error error => (table, .error error)

/-- The table after a call, and the answer. -/
def perform (table : LabelTable) : Call → LabelTable × Answer
  | .create name => (table.create name, .ok (some table.next))
  | .bind label address => table.adopt (table.bind label address)

/-- The table after a sequence of calls. -/
def run (table : LabelTable) (calls : List Call) : LabelTable :=
  calls.foldl (fun table call => (table.perform call).1) table

/-- The answers to a sequence of calls. -/
def answers (table : LabelTable) : List Call → List Answer
  | [] => []
  | call :: rest => (table.perform call).2 :: (table.perform call).1.answers rest

/-! ## Histories -/

/-- The name with which a call creates a label. -/
def Call.creates? : Call → Option (Option String)
  | .create name => some name
  | .bind .. => none

/-- The names of the labels that calls on a new table create, in order. -/
def creations (calls : List Call) : List (Option String) :=
  calls.filterMap Call.creates?

/-- Calls on a new table create a label. -/
def Creates (calls : List Call) (label : Label) : Prop :=
  label.index < (creations calls).length

instance (calls : List Call) (label : Label) : Decidable (Creates calls label) :=
  inferInstanceAs (Decidable (_ < _))

/-- The address to which a call with a given answer binds a label. Only addresses of 32
bits are bound, so none is cut off here. -/
def Call.binds? (label : Label) : Call × Answer → Option UInt32
  | (.bind target address, .ok _) =>
    if target = label then some (UInt32.ofNat address.toNat) else none
  | _ => none

/-- The address of the first successful call that binds a label, among calls on a new
table. -/
def firstBound (calls : List Call) (label : Label) : Option UInt32 :=
  (calls.zip (empty.answers calls)).findSome? (Call.binds? label)

theorem run_append (table : LabelTable) (calls more : List Call) :
    table.run (calls ++ more) = (table.run calls).run more :=
  List.foldl_append

theorem answers_append (table : LabelTable) (calls more : List Call) :
    table.answers (calls ++ more) = table.answers calls ++ (table.run calls).answers more := by
  induction calls generalizing table with
  | nil => rfl
  | cons call rest ih => exact congrArg (List.cons _) (ih _)

theorem length_answers (table : LabelTable) (calls : List Call) :
    (table.answers calls).length = calls.length := by
  induction calls generalizing table with
  | nil => rfl
  | cons call rest ih => exact congrArg Nat.succ (ih _)

theorem creations_concat (calls : List Call) (call : Call) :
    creations (calls ++ [call]) = creations calls ++ call.creates?.toList := by
  rw [creations, List.filterMap_append, ← creations]
  cases call <;> rfl

theorem creations_concat_bind (calls : List Call) (label : Label) (address : Int) :
    creations (calls ++ [.bind label address]) = creations calls :=
  (creations_concat calls (.bind label address)).trans (List.append_nil _)

/-- A further call binds a label only if no call before it has. -/
theorem firstBound_concat (calls : List Call) (call : Call) (label : Label) :
    firstBound (calls ++ [call]) label =
      (firstBound calls label).or
        (Call.binds? label (call, ((empty.run calls).perform call).2)) := by
  rw [firstBound, answers_append, List.zip_append (length_answers _ _).symm,
    List.findSome?_append, ← firstBound]
  simp [answers]

/-! ## One call -/

theorem exists_toNat_of_isUnsigned32 {address : Int} (fits : IsUnsigned32 address) :
    ∃ pc : UInt32, address = pc.toNat := by
  obtain ⟨least, greatest⟩ := fits
  refine ⟨UInt32.ofNat address.toNat, ?_⟩
  rw [UInt32.toNat_ofNat_of_lt' (by simp only [UInt32.size]; omega)]
  omega

theorem bind_of_not_isUnsigned32 {address : Int} (outside : ¬ IsUnsigned32 address)
    (table : LabelTable) (label : Label) :
    table.bind label address = .error (.addressOutOfRange address) :=
  if_neg outside

theorem bind_of_foreign {table : LabelTable} {label : Label} {address : Int}
    (fits : IsUnsigned32 address) (foreign : table.slot? label = none) :
    table.bind label address = .error (.labelForeign label) := by
  rw [bind, if_pos fits, foreign]

theorem bind_of_placed {table : LabelTable} {label : Label} {address : Int}
    {name : Option String} {earlier : UInt32} (fits : IsUnsigned32 address)
    (placed : table.slot? label = some ⟨name, some earlier⟩) :
    table.bind label address = .error (.labelPlacedTwice label earlier) := by
  rw [bind, if_pos fits, placed]

/-- A call that is refused leaves the table as it was. -/
theorem perform_of_refused {table : LabelTable} {call : Call} {error : AssemblyError}
    (refused : (table.perform call).2 = .error error) : (table.perform call).1 = table := by
  cases call with
  | create name => cases refused
  | bind label address =>
      rw [perform] at refused ⊢
      cases outcome : table.bind label address with
      | error cause => rfl
      | ok bound =>
          rw [outcome] at refused
          cases refused

/-! ## Whole histories -/

/-- The slots of a table are what its history says: the names that labels were created
with, and the first addresses they were bound to. A label that was not created is not
bound. -/
structure Records (calls : List Call) (table : LabelTable) : Prop where
  slot : ∀ label, table.slot? label =
    (creations calls)[label.index]?.map fun name => ⟨name, firstBound calls label⟩
  unbound : ∀ {label}, ¬ Creates calls label → firstBound calls label = none

theorem Records.size {calls : List Call} {table : LabelTable}
    (records : Records calls table) : table.size = (creations calls).length := by
  have same (index : Nat) : table.size ≤ index ↔ (creations calls).length ≤ index := by
    have missing : table.slot? ⟨index⟩ = none ↔ table.size ≤ index := slot?_eq_none_iff
    rw [← missing, records.slot, Option.map_eq_none_iff, List.getElem?_eq_none_iff]
  exact Nat.le_antisymm ((same _).mpr (Nat.le_refl _)) ((same _).mp (Nat.le_refl _))

theorem Records.slot_of_creates {calls : List Call} {table : LabelTable}
    (records : Records calls table) {label : Label} (created : Creates calls label) :
    ∃ name, (creations calls)[label.index]? = some name ∧
      table.slot? label = some ⟨name, firstBound calls label⟩ := by
  have found := List.getElem?_eq_getElem created
  refine ⟨_, found, ?_⟩
  rw [records.slot, found]
  rfl

theorem Records.slot_of_not_creates {calls : List Call} {table : LabelTable}
    (records : Records calls table) {label : Label} (foreign : ¬ Creates calls label) :
    table.slot? label = none := by
  rw [slot?_eq_none_iff, records.size]
  exact Nat.le_of_not_lt foreign

theorem Records.create {calls : List Call} (records : Records calls (empty.run calls))
    (name : Option String) :
    Records (calls ++ [.create name]) ((empty.run calls).create name) := by
  have names : creations (calls ++ [.create name]) = creations calls ++ [name] :=
    creations_concat calls (.create name)
  have bound (label : Label) :
      firstBound (calls ++ [.create name]) label = firstBound calls label := by
    rw [firstBound_concat]
    exact Option.or_none
  have next : (empty.run calls).next = ⟨(creations calls).length⟩ :=
    congrArg Label.mk records.size
  constructor
  · intro label
    rw [slot?_create, names, bound, next]
    by_cases fresh : label = ⟨(creations calls).length⟩
    · have untouched : firstBound calls label = none :=
        records.unbound (by rw [fresh]; exact Nat.lt_irrefl _)
      rw [if_pos fresh, untouched, fresh]
      simp
    · have different : label.index ≠ (creations calls).length :=
        fun same => fresh (ext_index same)
      rw [if_neg fresh, records.slot, List.getElem?_append]
      split
      · rfl
      · rw [List.getElem?_eq_none_iff.mpr (by omega), List.getElem?_eq_none_iff.mpr]
        simp only [List.length_singleton]
        omega
  · intro label foreign
    rw [bound]
    apply records.unbound
    intro created
    apply foreign
    rw [Creates, names, List.length_append]
    exact Nat.lt_add_right _ created

theorem Records.bind {calls : List Call} (records : Records calls (empty.run calls))
    {label : Label} {address : Int} {placed : LabelTable}
    (success : (empty.run calls).bind label address = .ok placed) :
    Records (calls ++ [.bind label address]) placed := by
  have fits : IsUnsigned32 address := by
    by_cases fits : IsUnsigned32 address
    · exact fits
    · rw [bind_of_not_isUnsigned32 fits] at success
      cases success
  obtain ⟨pc, rfl⟩ := exists_toNat_of_isUnsigned32 fits
  obtain ⟨name, found, -⟩ := bind_eq_ok_iff.mp success
  have names := creations_concat_bind calls label pc.toNat
  have bound (other : Label) : firstBound (calls ++ [.bind label pc.toNat]) other =
      (firstBound calls other).or (if label = other then some pc else none) := by
    rw [firstBound_concat, perform, success]
    simp [adopt, Call.binds?]
  have created : Creates calls label := by
    by_cases created : Creates calls label
    · exact created
    · rw [records.slot_of_not_creates created] at found
      cases found
  have unbound : firstBound calls label = none := by
    obtain ⟨given, -, slot⟩ := records.slot_of_creates created
    rw [found] at slot
    exact (congrArg Slot.address (Option.some.inj slot)).symm
  constructor
  · intro other
    rw [slot?_bind success, names, bound]
    by_cases same : other = label
    · rw [if_pos same, same, unbound, if_pos rfl, records.slot, Option.map_map]
      rfl
    · rw [if_neg same, if_neg (Ne.symm same), Option.or_none, records.slot]
  · intro other foreign
    rw [Creates, names] at foreign
    have different : label ≠ other := fun same => foreign (same ▸ created)
    rw [bound, if_neg different, Option.or_none]
    exact records.unbound foreign

theorem Records.refuse {calls : List Call} (records : Records calls (empty.run calls))
    {label : Label} {address : Int} {error : AssemblyError}
    (refused : (empty.run calls).bind label address = .error error) :
    Records (calls ++ [.bind label address]) (empty.run calls) := by
  have names := creations_concat_bind calls label address
  have bound (other : Label) :
      firstBound (calls ++ [.bind label address]) other = firstBound calls other := by
    rw [firstBound_concat, perform, refused]
    exact Option.or_none
  constructor
  · intro other
    rw [names, bound]
    exact records.slot other
  · intro other foreign
    rw [Creates, names] at foreign
    rw [bound]
    exact records.unbound foreign

theorem Records.perform {calls : List Call} (records : Records calls (empty.run calls))
    (call : Call) : Records (calls ++ [call]) (empty.run (calls ++ [call])) := by
  rw [run_append]
  show Records (calls ++ [call]) ((empty.run calls).perform call).1
  cases call with
  | create name => exact records.create name
  | bind label address =>
      rw [LabelTable.perform]
      cases outcome : (empty.run calls).bind label address with
      | ok placed => exact records.bind outcome
      | error error => exact records.refuse outcome

/-- Every table that was filled from the empty one is what its history says. -/
theorem records_run (calls : List Call) : Records calls (empty.run calls) := by
  induction calls using List.reverseRecOn with
  | nil => exact ⟨fun label => by simp [slot?, empty, creations, run], fun _ => rfl⟩
  | append_singleton past call ih => exact ih.perform call

/-! ## Answers -/

/-- Binding succeeds for a label that was created and not bound before. -/
theorem Records.bind_of_unbound {calls : List Call} {table : LabelTable}
    (records : Records calls table) {label : Label} {address : Int}
    (fits : IsUnsigned32 address) (created : Creates calls label)
    (unbound : firstBound calls label = none) :
    (table.perform (.bind label address)).2 = .ok none := by
  obtain ⟨pc, rfl⟩ := exists_toNat_of_isUnsigned32 fits
  obtain ⟨name, -, slot⟩ := records.slot_of_creates created
  rw [unbound] at slot
  rw [LabelTable.perform, bind_eq_ok_iff.mpr ⟨name, slot, rfl⟩]
  rfl

theorem Records.perform_bind_foreign {calls : List Call} {table : LabelTable}
    (records : Records calls table) {label : Label} {address : Int}
    (fits : IsUnsigned32 address) (foreign : ¬ Creates calls label) :
    (table.perform (.bind label address)).2 = .error (.labelForeign label) := by
  rw [LabelTable.perform, bind_of_foreign fits (records.slot_of_not_creates foreign)]
  rfl

theorem Records.perform_bind_bound {calls : List Call} {table : LabelTable}
    (records : Records calls table) {label : Label} {address : Int}
    (fits : IsUnsigned32 address) {earlier : UInt32}
    (bound : firstBound calls label = some earlier) :
    (table.perform (.bind label address)).2 = .error (.labelPlacedTwice label earlier) := by
  have created : Creates calls label := by
    by_cases created : Creates calls label
    · exact created
    · rw [records.unbound created] at bound
      cases bound
  obtain ⟨name, -, slot⟩ := records.slot_of_creates created
  rw [bound] at slot
  rw [LabelTable.perform, bind_of_placed fits slot]
  rfl

theorem perform_bind_outside {address : Int} (outside : ¬ IsUnsigned32 address)
    (table : LabelTable) (label : Label) :
    (table.perform (.bind label address)).2 = .error (.addressOutOfRange address) := by
  rw [perform, bind_of_not_isUnsigned32 outside]
  rfl

/-- Binding succeeds in no other case than the one above. -/
theorem Records.bind_eq_ok_iff {calls : List Call} {table : LabelTable}
    (records : Records calls table) {label : Label} {address : Int} :
    (table.perform (.bind label address)).2 = .ok none ↔
      IsUnsigned32 address ∧ Creates calls label ∧ firstBound calls label = none := by
  constructor
  · intro success
    by_cases fits : IsUnsigned32 address
    · by_cases created : Creates calls label
      · refine ⟨fits, created, ?_⟩
        cases bound : firstBound calls label with
        | none => rfl
        | some earlier =>
            rw [records.perform_bind_bound fits bound] at success
            cases success
      · rw [records.perform_bind_foreign fits created] at success
        cases success
    · rw [perform_bind_outside fits] at success
      cases success
  · rintro ⟨fits, created, unbound⟩
    exact records.bind_of_unbound fits created unbound

theorem Records.isPlaced {calls : List Call} {table : LabelTable}
    (records : Records calls table) (label : Label) :
    table.isPlaced label = (firstBound calls label).isSome := by
  rw [LabelTable.isPlaced]
  by_cases created : Creates calls label
  · obtain ⟨name, -, slot⟩ := records.slot_of_creates created
    rw [slot]
    rfl
  · rw [records.slot_of_not_creates created, records.unbound created]
    rfl

theorem Records.mem_unplaced_iff {calls : List Call} {table : LabelTable}
    (records : Records calls table) (label : Label) :
    label ∈ table.unplaced ↔ Creates calls label ∧ firstBound calls label = none := by
  rw [unplaced, List.mem_filter, records.isPlaced, records.size]
  have listed : label ∈ (List.range (creations calls).length).map Label.mk ↔
      Creates calls label := by
    rw [List.mem_map, Creates]
    constructor
    · rintro ⟨index, inside, rfl⟩
      exact List.mem_range.mp inside
    · exact fun inside => ⟨label.index, List.mem_range.mpr inside, rfl⟩
  rw [listed]
  cases firstBound calls label <;> simp

/-- The labels without an address are listed in the order of creation. -/
theorem pairwise_unplaced (table : LabelTable) :
    table.unplaced.Pairwise fun first second => first.index < second.index := by
  apply List.Pairwise.filter
  rw [List.pairwise_map]
  exact List.pairwise_lt_range

/-- A label table is a write-once map, after any calls on a new one. A creation is answered
with the number of creations before it. A label is bound if the address has 32 bits, the
label was created and no earlier call has bound it. Otherwise the address is blamed first,
then a label that was not created, then the address that the label was first bound to, and
the table stays as it is. Questions are answered with the names given at creation and with
the first addresses, and the labels that were never bound are listed in the order of
creation. -/
theorem run_refines_writeOnce (calls : List Call) :
    let table := empty.run calls
    (∀ name, (table.perform (.create name)).2 = .ok (some ⟨(creations calls).length⟩)) ∧
      (∀ label address,
        ((table.perform (.bind label address)).2 = .ok none ↔
          IsUnsigned32 address ∧ Creates calls label ∧ firstBound calls label = none) ∧
        (¬ IsUnsigned32 address →
          (table.perform (.bind label address)).2 = .error (.addressOutOfRange address)) ∧
        (IsUnsigned32 address → ¬ Creates calls label →
          (table.perform (.bind label address)).2 = .error (.labelForeign label)) ∧
        (IsUnsigned32 address → ∀ earlier, firstBound calls label = some earlier →
          (table.perform (.bind label address)).2 = .error (.labelPlacedTwice label earlier))) ∧
      (∀ call error, (table.perform call).2 = .error error → (table.perform call).1 = table) ∧
      (∀ label, Creates calls label →
        table.state label = .ok (firstBound calls label) ∧
        table.address label =
          (firstBound calls label).elim (.error (.labelUnplaced label)) .ok) ∧
      (∀ label, ¬ Creates calls label →
        table.state label = .error (.labelForeign label) ∧
        table.address label = .error (.labelForeign label)) ∧
      (∀ label, table.isPlaced label = (firstBound calls label).isSome ∧
        table.name? label = (creations calls)[label.index]?.join) ∧
      (table.unplaced.Pairwise fun first second => first.index < second.index) ∧
      ∀ label, label ∈ table.unplaced ↔ Creates calls label ∧ firstBound calls label = none := by
  intro table
  have records : Records calls table := records_run calls
  refine ⟨?_, ?_, ?_, ?_, ?_, ?_, pairwise_unplaced table, records.mem_unplaced_iff⟩
  · intro name
    have next : table.next = ⟨(creations calls).length⟩ := congrArg Label.mk records.size
    rw [perform, next]
  · intro label address
    exact ⟨records.bind_eq_ok_iff, fun outside => perform_bind_outside outside table label,
      records.perform_bind_foreign, fun fits _ => records.perform_bind_bound fits⟩
  · exact fun call error refused => perform_of_refused refused
  · intro label created
    obtain ⟨name, -, slot⟩ := records.slot_of_creates created
    rw [state, address, slot]
    cases firstBound calls label <;> exact ⟨rfl, rfl⟩
  · intro label foreign
    rw [state, address, records.slot_of_not_creates foreign]
    exact ⟨rfl, rfl⟩
  · intro label
    refine ⟨records.isPlaced label, ?_⟩
    rw [name?, records.slot]
    cases (creations calls)[label.index]? <;> rfl

/-- A first binding is refused for its address and leaves the label open, the next one
counts, and later ones are refused, for the address first of all. -/
theorem run_refines_writeOnce_reopened :
    let calls : List Call :=
      [.create (some "loop"), .bind ⟨0⟩ (-4), .create none, .bind ⟨2⟩ 0, .bind ⟨0⟩ 8]
    let table := empty.run calls
    firstBound calls ⟨0⟩ = some 8 ∧ ¬ IsUnsigned32 0x100000000 ∧
      (table.perform (.bind ⟨0⟩ 0x100000000)).2 = .error (.addressOutOfRange 0x100000000) ∧
      (table.perform (.bind ⟨0⟩ 16)).2 = .error (.labelPlacedTwice ⟨0⟩ 8) ∧
      (table.perform (.bind ⟨1⟩ 16)).2 = .ok none ∧
      table.address ⟨0⟩ = .ok 8 ∧ ⟨1⟩ ∈ table.unplaced := by
  intro calls table
  obtain ⟨-, answered, -, known, -, -, -, vacant⟩ := run_refines_writeOnce calls
  have bound : firstBound calls ⟨0⟩ = some 8 := by decide
  have unbound : firstBound calls ⟨1⟩ = none := by decide
  have createdFirst : Creates calls ⟨0⟩ := by decide
  have createdSecond : Creates calls ⟨1⟩ := by decide
  have placed := (known ⟨0⟩ createdFirst).2
  rw [bound] at placed
  exact ⟨bound, by decide, (answered ⟨0⟩ _).2.1 (by decide),
    (answered ⟨0⟩ 16).2.2.2 (by decide) 8 bound,
    (answered ⟨1⟩ 16).1.mpr ⟨by decide, createdSecond, unbound⟩, placed,
    (vacant ⟨1⟩).mpr ⟨createdSecond, unbound⟩⟩

end Mips32.LabelTable
