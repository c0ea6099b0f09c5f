/-
# Why finishing can fail

A session whose instructions were asked for by name can fail to give an image for
four kinds of reasons: a label is missing, a branch or a jump does not reach its
label, or a shift amount, a trap code or an immediate is too large. All of these lie
in the data of the program. A branch never fails because its distance is no multiple
of four: addresses of records and labels leave the same remainder, whatever the start
of the image is, also around the end of the address space. For the same reason a jump
to a label can be misaligned only if the start is.
-/
import Mips32.Proofs.AppendOnly
import Mips32.Proofs.Image
import Mips32.Proofs.ProperFields

namespace Mips32

/-! ## Distances -/

/-- The distance in bytes from the delay slot of a branch at `pc` to `target`, around
the address space on the shorter side. -/
def byteDistance (target pc : UInt32) : Int :=
  ((target.toNat : Int) - pc.toNat - 4).bmod 0x100000000

theorem byteDistance_mod_four {target pc : UInt32}
    (aligned : target.toNat % 4 = pc.toNat % 4) : byteDistance target pc % 4 = 0 := by
  have around := Int.bmod_emod (x := (target.toNat : Int) - pc.toNat - 4) (m := 0x100000000)
  rw [byteDistance]
  omega

/-- Between addresses with the same remainder, a branch is refused for the number of
words only. -/
theorem branchOffset_eq_error {target pc : UInt32} {error : AssemblyError}
    (aligned : target.toNat % 4 = pc.toNat % 4) (failed : branchOffset target pc = .error error) :
    ∃ words, byteDistance target pc = 4 * words ∧ (words < -0x8000 ∨ 0x7FFF < words) ∧
      error = .outOfRange .branchOffset words := by
  have multiple := byteDistance_mod_four aligned
  unfold branchOffset at failed
  rw [← byteDistance] at failed
  dsimp only at failed
  rw [if_neg (not_not_intro multiple)] at failed
  split at failed
  · cases failed
  · rename_i far
    cases failed
    refine ⟨byteDistance target pc / 4, ?_, ?_, rfl⟩
    · omega
    · omega

theorem jumpIndex_eq_error {target pc : UInt32} {error : AssemblyError}
    (failed : jumpIndex target pc = .error error) :
    error = .jumpOutsideSegment target pc ∨
      (error = .jumpMisaligned target ∧ target.toNat % 4 ≠ 0) := by
  unfold jumpIndex at failed
  split at failed
  · cases failed
    exact .inl rfl
  · split at failed
    · rename_i misaligned
      cases failed
      exact .inr ⟨rfl, misaligned⟩
    · cases failed

/-! ## Records -/

/-- The reasons for which a record with a proper instruction has no word. -/
inductive Record.Refusal (record : Record) (labels : LabelTable) : AssemblyError → Prop
  /-- The label it waits for has no address. -/
  | label {label : Label} {error : AssemblyError}
      (missing : labels.address label = .error error) : Refusal record labels error
  /-- It is a branch that does not reach its label. -/
  | branch {opcode rs rt : Nat} {label : Label} {address : UInt32} {error : AssemblyError}
      (branches : record.instr = .immediate opcode rs rt (.branch label))
      (placed : labels.address label = .ok address)
      (failed : branchOffset address record.pc = .error error) : Refusal record labels error
  /-- It is a jump that does not reach its label. -/
  | jump {label : Label} {address : UInt32} {error : AssemblyError}
      (placed : labels.address label = .ok address)
      (failed : jumpIndex address record.pc = .error error) : Refusal record labels error
  /-- A number that the program chose does not fit its field. -/
  | data {field : Field} {value : Int} (chosen : field ∈ [.immediate, .shift, .code]) :
    Refusal record labels (.outOfRange field value)

theorem Record.refusal_of_resolve {record : Record} {labels : LabelTable}
    {error : AssemblyError} (failed : record.instr.resolve record.pc labels = .error error) :
    record.Refusal labels error := by
  obtain ⟨pc, instr⟩ := record
  cases instr with
  | immediate opcode rs rt value =>
      have unresolved : value.resolve pc labels = .error error := map_eq_error_iff.mp failed
      cases value with
      | literal value => cases unresolved
      | branch label =>
          rcases bind_eq_error_iff.mp unresolved with missing | ⟨address, placed, failed⟩
          · exact .label missing
          · exact .branch rfl placed failed
      | high label | low label =>
          rcases bind_eq_error_iff.mp unresolved with missing | ⟨address, -, failed⟩
          · exact .label missing
          · cases failed
  | jump opcode target =>
      have unresolved : target.resolve pc labels = .error error := map_eq_error_iff.mp failed
      cases target with
      | index position => cases unresolved
      | label label =>
          rcases bind_eq_error_iff.mp unresolved with missing | ⟨address, placed, failed⟩
          · exact .label missing
          · exact .jump placed failed
  | register | trap | float | data | nop => cases failed

/-- In the concrete form of a proper instruction, every field accepts its value unless
the program chose the value. -/
theorem Symbolic.Proper.accepts_of_resolve {instr : Symbolic} (proper : instr.Proper)
    {pc : UInt32} {labels : LabelTable} {concrete : Concrete}
    (resolved : instr.resolve pc labels = .ok concrete) :
    ∀ item ∈ concrete.fields,
      item.1 ∈ [.immediate, .shift, .code] ∨ item.1.Accepts item.2 := by
  cases instr with
  | register opcode rs rt rd shift funct =>
      cases resolved
      obtain ⟨opcodeFits, rsFits, rtFits, rdFits, functFits⟩ := proper
      simp only [Concrete.fields, List.forall_mem_cons]
      exact ⟨.inr opcodeFits, .inr rsFits, .inr rtFits, .inr rdFits, .inl (by decide),
        .inr functFits, List.forall_mem_nil _⟩
  | immediate opcode rs rt value =>
      obtain ⟨number, -, rfl⟩ := map_eq_ok_iff.mp resolved
      obtain ⟨opcodeFits, rsFits, rtFits⟩ := proper
      simp only [Concrete.fields, List.forall_mem_cons]
      exact ⟨.inr opcodeFits, .inr rsFits, .inr rtFits, .inl (by decide),
        List.forall_mem_nil _⟩
  | jump opcode target =>
      obtain ⟨index, found, rfl⟩ := map_eq_ok_iff.mp resolved
      have fits : Field.opcode.Accepts opcode ∧ Field.jumpIndex.Accepts index := by
        cases target with
        | index position =>
            cases found
            exact proper
        | label label =>
            obtain ⟨address, -, found⟩ := bind_eq_ok_iff.mp found
            exact ⟨proper, accepts_of_jumpIndex found⟩
      simp only [Concrete.fields, List.forall_mem_cons]
      exact ⟨.inr fits.1, .inr fits.2, List.forall_mem_nil _⟩
  | trap opcode code funct =>
      cases resolved
      simp only [Concrete.fields, List.forall_mem_cons]
      exact ⟨.inr proper.1, .inl (by decide), .inr proper.2, List.forall_mem_nil _⟩
  | float opcode fmt ft fs fd funct =>
      cases resolved
      obtain ⟨opcodeFits, fmtFits, ftFits, fsFits, fdFits, functFits⟩ := proper
      simp only [Concrete.fields, List.forall_mem_cons]
      exact ⟨.inr opcodeFits, .inr fmtFits, .inr ftFits, .inr fsFits, .inr fdFits,
        .inr functFits, List.forall_mem_nil _⟩
  | data word | nop =>
      cases resolved
      exact List.forall_mem_nil _

theorem Record.refusal_of_word {record : Record} (proper : record.instr.Proper)
    {labels : LabelTable} {error : AssemblyError}
    (failed : record.word labels = .error error) : record.Refusal labels error := by
  rcases bind_eq_error_iff.mp failed with unresolved | ⟨concrete, resolved, unpacked⟩
  · exact refusal_of_resolve unresolved
  · obtain ⟨item, listed, refused, rfl⟩ := Concrete.encode_eq_error unpacked
    rcases proper.accepts_of_resolve resolved item listed with chosen | accepted
    · exact .data chosen
    · exact absurd accepted refused

/-- A proper instruction has a word if the numbers that the program chose fit. -/
theorem Record.exists_word {record : Record} (proper : record.instr.Proper)
    {labels : LabelTable} {concrete : Concrete}
    (resolved : record.instr.resolve record.pc labels = .ok concrete)
    (chosen : ∀ item ∈ concrete.fields, item.1 ∈ [.immediate, .shift, .code] →
      item.1.Accepts item.2) : ∃ word, record.word labels = .ok word := by
  cases outcome : record.word labels with
  | ok word => exact ⟨word, rfl⟩
  | error error =>
      rcases bind_eq_error_iff.mp outcome with unresolved | ⟨found, resolvedToo, unpacked⟩
      · rw [resolved] at unresolved
        cases unresolved
      · rw [resolved] at resolvedToo
        cases resolvedToo
        obtain ⟨item, listed, refused, -⟩ := Concrete.encode_eq_error unpacked
        rcases proper.accepts_of_resolve resolved item listed with free | accepted
        · exact absurd (chosen item listed free) refused
        · exact absurd accepted refused

/-! ## Sessions -/

theorem toNat_mod_four (start : UInt32) (count : Nat) :
    (start + 4 * UInt32.ofNat count).toNat % 4 = start.toNat % 4 := by
  simp only [UInt32.toNat_add, UInt32.toNat_mul, UInt32.reduceToNat]
  omega

/-- A record of a run stands at an address with the remainder of the start. -/
theorem Session.record_aligned {config : Config} {requests : List Request} {index : Nat}
    {record : Record} (logged : ((Session.new config).run requests).log[index]? = some record) :
    record.pc.toNat % 4 = config.start.toNat % 4 := by
  have spaced := (new_spaced config).run (new_counted config) requests
  rw [spaced index record logged, toNat_mod_four, run_config]
  rfl

/-- A label that a run placed has an address with the remainder of the start. -/
theorem Session.label_aligned {config : Config} {requests : List Request} {label : Label}
    {address : UInt32}
    (placed : ((Session.new config).run requests).labels.address label = .ok address) :
    address.toNat % 4 = config.start.toNat % 4 := by
  obtain ⟨count, -, rfl⟩ := address_run_eq_ok_iff.mp placed
  exact toNat_mod_four ..

/-- The errors that have their cause in the data of a program. -/
def AssemblyError.FromData : AssemblyError → Prop
  | outOfRange field _ => field ∈ [.immediate, .shift, .code, .branchOffset]
  | labelUnplaced _ | labelForeign _ | jumpOutsideSegment .. | jumpMisaligned _ => True
  | labelPlacedTwice .. | addressOutOfRange _ => False

/-- A run of requests that ask for instructions by name, whose session has no image,
fails for its data. If a branch does not fit, the distance is a multiple of four bytes
and the number of words is what does not fit. A jump to a label is misaligned only if
the start of the image is. -/
theorem image_error_of_byName {config : Config} {requests : List Request}
    (byName : ∀ request ∈ requests, request.ByName) {index : Nat} {error : AssemblyError}
    (failed : ((Session.new config).run requests).image = .error (index, error)) :
    error.FromData ∧
      (∀ value, error = .outOfRange .branchOffset value →
        (value < -0x8000 ∨ 0x7FFF < value) ∧
          ∃ record opcode rs rt label address,
            ((Session.new config).run requests).log[index]? = some record ∧
            record.instr = .immediate opcode rs rt (.branch label) ∧
            ((Session.new config).run requests).labels.address label = .ok address ∧
            byteDistance address record.pc = 4 * value) ∧
      ∀ target, error = .jumpMisaligned target → config.start.toNat % 4 ≠ 0 := by
  obtain ⟨record, logged, failed, -⟩ := Session.image_eq_error_iff.mp failed
  have proper := (Session.new_proper config).run byName record (Array.mem_of_getElem? logged)
  cases Record.refusal_of_word proper failed with
  | label missing =>
      rcases LabelTable.address_eq_error missing with rfl | rfl
      · exact ⟨trivial, nofun, nofun⟩
      · exact ⟨trivial, nofun, nofun⟩
  | branch branches placed unreached =>
      have aligned := (Session.label_aligned placed).trans (Session.record_aligned logged).symm
      obtain ⟨words, distance, far, rfl⟩ := branchOffset_eq_error aligned unreached
      refine ⟨by simp [AssemblyError.FromData], ?_, nofun⟩
      intro value same
      cases same
      exact ⟨far, record, _, _, _, _, _, logged, branches, placed, distance⟩
  | jump placed unreached =>
      rcases jumpIndex_eq_error unreached with rfl | ⟨rfl, misaligned⟩
      · exact ⟨trivial, nofun, nofun⟩
      · refine ⟨trivial, nofun, fun target _ => ?_⟩
        rw [← Session.label_aligned placed]
        exact misaligned
  | data chosen =>
      refine ⟨?_, ?_, nofun⟩
      · exact List.mem_append_left [.branchOffset] chosen
      · intro value same
        cases same
        contradiction

/-- An image that starts at an odd address has no word for a jump to a label. -/
theorem image_error_of_byName_odd_start :
    let config : Config := ⟨3, .big⟩
    let requests : List Request :=
      [.create none, .command (.addS ⟨31⟩ ⟨0⟩ ⟨1⟩), .place ⟨0⟩, .command (.jLabel ⟨0⟩)]
    (∀ request ∈ requests, request.ByName) ∧
      ((Session.new config).run requests).image = .error (1, .jumpMisaligned 7) ∧
      config.start.toNat % 4 ≠ 0 := by
  intro config requests
  have byName : ∀ request ∈ requests, request.ByName := by
    simp [requests, Request.ByName, Command.fregs]
  have failed : ((Session.new config).run requests).image = .error (1, .jumpMisaligned 7) :=
    cause?_eq_some_iff.mp (by decide +kernel)
  exact ⟨byName, failed, (image_error_of_byName byName failed).2.2 7 rfl⟩

end Mips32
