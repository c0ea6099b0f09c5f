/-
# Runs of a session

A run is a sequence of requests, some of which may be refused. One case analysis
says everything a request can do to a session; what a run preserves follows from
it by induction, above all that a session only grows. The main result ties the
label table to the run that filled it: a label has an address after a run exactly
when the run placed it, and the address counts the records that were in the log at
that moment. It makes no difference whether an instruction that refers to the label
was appended before or after.
-/
import Mips32.Request
import Mips32.Proofs.LabelTable

namespace Mips32.Session

/-! ## Appending and creating -/

@[simp]
theorem emit_config (session : Session) (instr : Symbolic) :
    (session.emit instr).config = session.config := rfl

@[simp]
theorem emit_labels (session : Session) (instr : Symbolic) :
    (session.emit instr).labels = session.labels := rfl

@[simp]
theorem emitAll_nil (session : Session) : session.emitAll [] = session := rfl

@[simp]
theorem emitAll_cons (session : Session) (instr : Symbolic) (rest : List Symbolic) :
    session.emitAll (instr :: rest) = (session.emit instr).emitAll rest := rfl

@[simp]
theorem emitAll_config (session : Session) (instrs : List Symbolic) :
    (session.emitAll instrs).config = session.config := by
  induction instrs generalizing session with
  | nil => rfl
  | cons instr rest ih => rw [emitAll_cons, ih, emit_config]

@[simp]
theorem emitAll_labels (session : Session) (instrs : List Symbolic) :
    (session.emitAll instrs).labels = session.labels := by
  induction instrs generalizing session with
  | nil => rfl
  | cons instr rest ih => rw [emitAll_cons, ih, emit_labels]

/-- The records of instructions that are appended from `pc` on. -/
def recordsFrom : UInt32 → List Symbolic → List Record
  | _, [] => []
  | pc, instr :: rest => ⟨pc, instr⟩ :: recordsFrom (pc + 4) rest

theorem map_instr_recordsFrom (pc : UInt32) (instrs : List Symbolic) :
    (recordsFrom pc instrs).map Record.instr = instrs := by
  induction instrs generalizing pc with
  | nil => rfl
  | cons instr rest ih => exact congrArg (List.cons instr) (ih (pc + 4))

theorem emitAll_log (session : Session) (instrs : List Symbolic) :
    (session.emitAll instrs).log.toList =
      session.log.toList ++ recordsFrom session.pc instrs := by
  induction instrs generalizing session with
  | nil => simp [recordsFrom]
  | cons instr rest ih => simp [ih, emit, recordsFrom]

theorem next_address (start : UInt32) (count : Nat) :
    start + 4 * UInt32.ofNat count + 4 = start + 4 * UInt32.ofNat (count + 1) := by
  rw [UInt32.ofNat_add, UInt32.mul_add, UInt32.add_assoc]
  rfl

theorem emitAll_pc (session : Session) (instrs : List Symbolic) :
    (session.emitAll instrs).pc = session.pc + 4 * UInt32.ofNat instrs.length := by
  induction instrs generalizing session with
  | nil => exact (UInt32.add_zero session.pc).symm
  | cons instr rest ih =>
      rw [emitAll_cons, ih, List.length_cons, ← next_address]
      show session.pc + 4 + _ = _
      rw [UInt32.add_assoc, UInt32.add_comm 4, ← UInt32.add_assoc]

/-- Placing a label changes nothing but the label table. -/
theorem place_eq_ok_iff {session placed : Session} {label : Label} :
    session.place label = .ok placed ↔
      ∃ labels, session.labels.bind label session.pc.toNat = .ok labels ∧
        placed = { session with labels } := by
  rw [place, Mips32.bind_eq_ok_iff]
  simp [pure, Except.pure, eq_comm]

theorem address_of_place {session placed : Session} {label : Label}
    (success : session.place label = .ok placed) :
    placed.labels.address label = .ok session.pc := by
  obtain ⟨labels, bound, rfl⟩ := place_eq_ok_iff.mp success
  rw [← toOption_eq_some_iff]
  exact (LabelTable.toOption_address_bind bound label).trans (if_pos rfl)

/-! ## One request -/

/-- Everything a request can do: be refused and change nothing, append
instructions, create a label, or place the label it names. -/
theorem perform_cases (session : Session) (request : Request) :
    (∃ error, session.perform request = (session, .error error)) ∨
      (∃ instrs, session.perform request = (session.emitAll instrs, .ok ())) ∨
      (∃ name, session.perform request = (session.create name, .ok ())) ∨
      ∃ label placed, request = .place label ∧ session.place label = .ok placed ∧
        session.perform request = (placed, .ok ()) := by
  have appended (outcome : Except EmissionError (List Symbolic)) :
      (∃ error, session.append outcome = (session, .error error)) ∨
        ∃ instrs, session.append outcome = (session.emitAll instrs, .ok ()) := by
    cases outcome with
    | error error => exact .inl ⟨error, rfl⟩
    | ok instrs => exact .inr ⟨instrs, rfl⟩
  cases request with
  | create name => exact .inr (.inr (.inl ⟨name, rfl⟩))
  | place label =>
      cases outcome : session.place label with
      | error error => exact .inl ⟨.assembly error, by rw [perform, outcome]; rfl⟩
      | ok placed =>
          exact .inr (.inr (.inr ⟨label, placed, rfl, outcome, by rw [perform, outcome]; rfl⟩))
  | emit instr => exact (appended (.ok [instr])).imp_right .inl
  | command command => exact (appended _).imp_right .inl
  | pseudo pseudo => exact (appended (.ok pseudo.expand)).imp_right .inl
  | entry entry operands => exact (appended _).imp_right .inl

/-- A later state of a session: its log and its label table have grown at the end
only. -/
structure Extends (session after : Session) : Prop where
  config : after.config = session.config
  log : session.log.toList <+: after.log.toList
  labels : session.labels.Extends after.labels

theorem Extends.refl (session : Session) : session.Extends session :=
  ⟨rfl, List.prefix_refl _, .refl _⟩

theorem Extends.trans {first second third : Session} (early : first.Extends second)
    (late : second.Extends third) : first.Extends third :=
  ⟨late.config.trans early.config, early.log.trans late.log, early.labels.trans late.labels⟩

/-- A request changes nothing that the session held before. -/
theorem extends_perform (session : Session) (request : Request) :
    session.Extends (session.perform request).1 := by
  obtain ⟨error, result⟩ | ⟨instrs, result⟩ | ⟨name, result⟩ |
    ⟨label, placed, -, success, result⟩ := session.perform_cases request
  · rw [result]
    exact .refl session
  · rw [result]
    constructor
    · exact emitAll_config session instrs
    · rw [emitAll_log]
      exact List.prefix_append _ _
    · rw [emitAll_labels]
      exact .refl _
  · rw [result]
    exact ⟨rfl, List.prefix_refl _, .create _ name⟩
  · obtain ⟨labels, bound, rfl⟩ := place_eq_ok_iff.mp success
    rw [result]
    exact ⟨rfl, List.prefix_refl _, .bind bound⟩

/-- A label that gets its address from a request was placed by it, at the current
address. -/
theorem place_of_perform_address {session : Session} {request : Request} {label : Label}
    {address : UInt32} (before : ∀ earlier, session.labels.address label ≠ .ok earlier)
    (after : (session.perform request).1.labels.address label = .ok address) :
    request = .place label ∧ (session.perform request).2 = .ok () ∧ address = session.pc := by
  have unplaced : (session.labels.address label).toOption = none := by
    cases outcome : session.labels.address label with
    | error error => rfl
    | ok earlier => exact absurd outcome (before earlier)
  rw [← toOption_eq_some_iff] at after
  obtain ⟨error, result⟩ | ⟨instrs, result⟩ | ⟨name, result⟩ |
    ⟨target, placed, named, success, result⟩ := session.perform_cases request
  · rw [result, unplaced] at after
    cases after
  · rw [result, emitAll_labels, unplaced] at after
    cases after
  · rw [result] at after
    have created := (LabelTable.toOption_address_create _ _ _).symm.trans after
    rw [unplaced] at created
    cases created
  · obtain ⟨labels, bound, rfl⟩ := place_eq_ok_iff.mp success
    rw [result] at after ⊢
    have changed := (LabelTable.toOption_address_bind bound label).symm.trans after
    split at changed
    · rename_i same
      subst same
      exact ⟨named, rfl, (Option.some.inj changed).symm⟩
    · rw [unplaced] at changed
      cases changed

theorem perform_place_address {session : Session} {label : Label}
    (success : (session.perform (.place label)).2 = .ok ()) :
    (session.perform (.place label)).1.labels.address label = .ok session.pc := by
  cases outcome : session.place label with
  | error error =>
      rw [perform, outcome] at success
      cases success
  | ok placed =>
      rw [perform, outcome]
      exact address_of_place outcome

/-! ## The address counter -/

/-- The current address is the one that the number of records in the log gives. -/
def Counted (session : Session) : Prop :=
  session.pc = session.config.start + 4 * UInt32.ofNat session.log.size

theorem Counted.emit {session : Session} (counted : session.Counted) (instr : Symbolic) :
    (session.emit instr).Counted := by
  show session.pc + 4 = session.config.start + 4 * UInt32.ofNat (session.log.push _).size
  rw [Array.size_push, ← next_address, ← counted]

theorem Counted.emitAll {session : Session} (counted : session.Counted)
    (instrs : List Symbolic) : (session.emitAll instrs).Counted := by
  induction instrs generalizing session with
  | nil => exact counted
  | cons instr rest ih => exact ih (counted.emit instr)

theorem Counted.perform {session : Session} (counted : session.Counted) (request : Request) :
    (session.perform request).1.Counted := by
  obtain ⟨error, result⟩ | ⟨instrs, result⟩ | ⟨name, result⟩ |
    ⟨label, placed, -, success, result⟩ := session.perform_cases request
  · rw [result]
    exact counted
  · rw [result]
    exact counted.emitAll instrs
  · rw [result]
    exact counted
  · obtain ⟨labels, -, rfl⟩ := place_eq_ok_iff.mp success
    rw [result]
    exact counted

theorem new_counted (config : Config) : (Session.new config).Counted :=
  (UInt32.add_zero config.start).symm

/-! ## Whole runs -/

@[simp]
theorem run_nil (session : Session) : session.run [] = session := rfl

theorem run_cons (session : Session) (request : Request) (rest : List Request) :
    session.run (request :: rest) = (session.perform request).1.run rest := rfl

theorem run_append (session : Session) (earlier later : List Request) :
    session.run (earlier ++ later) = (session.run earlier).run later :=
  List.foldl_append

theorem extends_run (session : Session) (requests : List Request) :
    session.Extends (session.run requests) := by
  induction requests generalizing session with
  | nil => exact .refl session
  | cons request rest ih => exact (session.extends_perform request).trans (ih _)

theorem run_config (session : Session) (requests : List Request) :
    (session.run requests).config = session.config :=
  (session.extends_run requests).config

theorem Counted.run {session : Session} (counted : session.Counted) (requests : List Request) :
    (session.run requests).Counted := by
  induction requests generalizing session with
  | nil => exact counted
  | cons request rest ih => exact ih (counted.perform request)

/-- An address once given is never taken back or changed. -/
theorem run_address {session : Session} {label : Label} {address : UInt32}
    (placed : session.labels.address label = .ok address) (requests : List Request) :
    (session.run requests).labels.address label = .ok address :=
  (session.extends_run requests).labels.address placed

/-- A run that gives a label an address contains the request that placed it, and
the address is the one the session had reached there. -/
theorem exists_place_of_run_address {session : Session} {requests : List Request}
    {label : Label} {address : UInt32}
    (before : ∀ earlier, session.labels.address label ≠ .ok earlier)
    (after : (session.run requests).labels.address label = .ok address) :
    ∃ earlier later, requests = earlier ++ .place label :: later ∧
      ((session.run earlier).perform (.place label)).2 = .ok () ∧
      address = (session.run earlier).pc := by
  induction requests generalizing session with
  | nil => exact absurd after (before address)
  | cons request rest ih =>
      by_cases now : ∃ current, (session.perform request).1.labels.address label = .ok current
      · -- The first request placed the label, and the rest of the run kept its address.
        obtain ⟨current, placed⟩ := now
        have kept := run_address placed rest
        rw [← run_cons, after] at kept
        obtain ⟨rfl, success, rfl⟩ := place_of_perform_address before placed
        exact ⟨[], rest, rfl, success, Except.ok.inj kept⟩
      · have stillUnplaced : ∀ earlier,
            (session.perform request).1.labels.address label ≠ .ok earlier :=
          fun earlier placed => now ⟨earlier, placed⟩
        obtain ⟨earlier, later, rfl, success, reached⟩ := ih stillUnplaced after
        exact ⟨request :: earlier, later, rfl, success, reached⟩

/-- The run `requests` of a new session places `label` at a moment when `count`
records are in the log. -/
def PlacedAfter (config : Config) (requests : List Request) (label : Label)
    (count : Nat) : Prop :=
  ∃ earlier later, requests = earlier ++ .place label :: later ∧
    (((Session.new config).run earlier).perform (.place label)).2 = .ok () ∧
    ((Session.new config).run earlier).log.size = count

/-- After a run, a label has an address exactly when the run placed it; the address
is that of the record that came next. -/
theorem address_run_eq_ok_iff {config : Config} {requests : List Request} {label : Label}
    {address : UInt32} :
    ((Session.new config).run requests).labels.address label = .ok address ↔
      ∃ count, PlacedAfter config requests label count ∧
        address = config.start + 4 * UInt32.ofNat count := by
  have reached (earlier : List Request) :
      ((Session.new config).run earlier).pc =
        config.start + 4 * UInt32.ofNat ((Session.new config).run earlier).log.size := by
    have counted := (new_counted config).run earlier
    rw [Counted, run_config] at counted
    exact counted
  constructor
  · intro placed
    have fresh : ∀ earlier, (Session.new config).labels.address label ≠ .ok earlier :=
      fun earlier found => by
        rw [← toOption_eq_some_iff, LabelTable.toOption_address] at found
        cases found
    obtain ⟨earlier, later, split, success, rfl⟩ := exists_place_of_run_address fresh placed
    exact ⟨_, ⟨earlier, later, split, success, rfl⟩, reached earlier⟩
  · rintro ⟨count, ⟨earlier, later, rfl, success, rfl⟩, rfl⟩
    rw [run_append, run_cons, ← reached]
    exact run_address (perform_place_address success) later

end Mips32.Session
