/-
# Sessions only grow

A request appends to the log or to the label table, or gives an address to a label
that had none. Whatever was there before it stays for good, and a request that is
refused changes nothing at all. With the address counter this fixes every address
that a session knows. A record stands at the start plus four bytes for each record
before it. A label stands where the session had come to when the label was placed,
which happens at most once in a run. Addresses go around the end of the address
space.
-/
import Mips32.Proofs.History

namespace Mips32.Session

/-! ## One request -/

/-- A request that is refused leaves the session as it was. -/
theorem perform_of_refused {session : Session} {request : Request} {error : EmissionError}
    (refused : (session.perform request).2 = .error error) :
    (session.perform request).1 = session := by
  obtain ⟨_, result⟩ | ⟨instrs, result⟩ | ⟨name, result⟩ | ⟨_, _, -, -, result⟩ :=
    session.perform_cases request
  · rw [result]
  all_goals
    rw [result] at refused
    cases refused

/-! ## Records -/

/-- Each record stands at the address that its position in the log gives. -/
def Spaced (session : Session) : Prop :=
  ∀ index record, session.log[index]? = some record →
    record.pc = session.config.start + 4 * UInt32.ofNat index

theorem Spaced.emit {session : Session} (spaced : session.Spaced) (counted : session.Counted)
    (instr : Symbolic) : (session.emit instr).Spaced := by
  intro index record logged
  have pushed : (session.log.push ⟨session.pc, instr⟩)[index]? = some record := logged
  rw [Array.getElem?_push] at pushed
  split at pushed
  · rename_i last
    cases pushed
    rw [last]
    exact counted
  · exact spaced index record pushed

theorem Spaced.emitAll {session : Session} (spaced : session.Spaced)
    (counted : session.Counted) (instrs : List Symbolic) :
    (session.emitAll instrs).Spaced := by
  induction instrs generalizing session with
  | nil => exact spaced
  | cons instr rest ih => exact ih (spaced.emit counted instr) (counted.emit instr)

theorem Spaced.perform {session : Session} (spaced : session.Spaced)
    (counted : session.Counted) (request : Request) :
    (session.perform request).1.Spaced := by
  obtain ⟨error, result⟩ | ⟨instrs, result⟩ | ⟨name, result⟩ |
    ⟨label, placed, -, success, result⟩ := session.perform_cases request
  · rw [result]
    exact spaced
  · rw [result]
    exact spaced.emitAll counted instrs
  · rw [result]
    exact spaced
  · obtain ⟨labels, -, rfl⟩ := place_eq_ok_iff.mp success
    rw [result]
    exact spaced

/-! ## Whole runs -/

theorem Spaced.run {session : Session} (spaced : session.Spaced) (counted : session.Counted)
    (requests : List Request) : (session.run requests).Spaced := by
  induction requests generalizing session with
  | nil => exact spaced
  | cons request rest ih =>
      exact ih (spaced.perform counted request) (counted.perform request)

theorem new_spaced (config : Config) : (Session.new config).Spaced := by
  intro index record logged
  cases logged

/-- A label that has an address cannot be placed. -/
theorem perform_place_refused {session : Session} {label : Label} {address : UInt32}
    (placed : session.labels.address label = .ok address) :
    (session.perform (.place label)).2 ≠ .ok () := by
  intro success
  cases outcome : session.place label with
  | error error =>
      rw [perform, outcome] at success
      cases success
  | ok after =>
      obtain ⟨labels, bound, -⟩ := place_eq_ok_iff.mp outcome
      have unplaced := LabelTable.toOption_address_of_bind bound
      rw [placed] at unplaced
      cases unplaced

/-- The request at a position of a run of a new session places a label. -/
def PlacesAt (config : Config) (requests : List Request) (label : Label)
    (position : Nat) : Prop :=
  requests[position]? = some (.place label) ∧
    (((Session.new config).run (requests.take position)).perform (.place label)).2 = .ok ()

/-- The number of records that a run of a new session has logged when it comes to the
request at a position. -/
def recordsBefore (config : Config) (requests : List Request) (position : Nat) : Nat :=
  ((Session.new config).run (requests.take position)).log.size

/-- A run that goes on after it placed a label still has the label placed. -/
theorem PlacesAt.address_take {config : Config} {requests : List Request} {label : Label}
    {position : Nat} (places : PlacesAt config requests label position) {later : Nat}
    (after : position < later) :
    ((Session.new config).run (requests.take later)).labels.address label =
      .ok ((Session.new config).run (requests.take position)).pc := by
  obtain ⟨listed, success⟩ := places
  have placed := perform_place_address success
  have front : (requests.take later).take (position + 1) =
      requests.take position ++ [.place label] := by
    rw [List.take_take, Nat.min_eq_left after, List.take_add_one, listed]
    rfl
  rw [← List.take_append_drop (position + 1) (requests.take later), front, run_append,
    run_append]
  exact run_address placed _

/-- A run places a label at most once. -/
theorem PlacesAt.unique {config : Config} {requests : List Request} {label : Label}
    {first second : Nat} (placesFirst : PlacesAt config requests label first)
    (placesSecond : PlacesAt config requests label second) : first = second := by
  have notBefore {early late : Nat} (placesEarly : PlacesAt config requests label early)
      (placesLate : PlacesAt config requests label late) : ¬ early < late := fun before =>
    perform_place_refused (placesEarly.address_take before) placesLate.2
  have := notBefore placesFirst placesSecond
  have := notBefore placesSecond placesFirst
  omega

/-- A label that has an address after a run was placed by it. -/
theorem exists_placesAt {config : Config} {requests : List Request} {label : Label}
    {address : UInt32}
    (placed : ((Session.new config).run requests).labels.address label = .ok address) :
    ∃ position, PlacesAt config requests label position ∧
      address = config.start + 4 * UInt32.ofNat (recordsBefore config requests position) := by
  obtain ⟨count, ⟨earlier, later, rfl, success, rfl⟩, rfl⟩ :=
    address_run_eq_ok_iff.mp placed
  refine ⟨earlier.length, ⟨?_, ?_⟩, ?_⟩
  · simp
  · rw [List.take_left]
    exact success
  · rw [recordsBefore, List.take_left]

/-- What holds of a session after any requests. Its records and the address counter
are spaced by four bytes from the start on. Each label with an address was placed by
exactly one request, and the address counts the records that were in the log then.
Whatever requests follow, the session only grows, and one that is refused leaves it
exactly as it was. -/
theorem run_addresses_and_growth (config : Config) (requests : List Request) :
    let session := (Session.new config).run requests
    (∀ index record, session.log[index]? = some record →
        record.pc = config.start + 4 * UInt32.ofNat index) ∧
      session.pc = config.start + 4 * UInt32.ofNat session.log.size ∧
      (∀ label address, session.labels.address label = .ok address →
        ∃ position, PlacesAt config requests label position ∧
          (∀ other, PlacesAt config requests label other → other = position) ∧
          recordsBefore config requests position ≤ session.log.size ∧
          address = config.start + 4 * UInt32.ofNat (recordsBefore config requests position)) ∧
      (∀ more, session.Extends (session.run more)) ∧
      ∀ request error, (session.perform request).2 = .error error →
        (session.perform request).1 = session := by
  intro session
  have sameConfig : session.config = config := run_config _ requests
  have counted : session.Counted := (new_counted config).run requests
  have spaced : session.Spaced := (new_spaced config).run (new_counted config) requests
  refine ⟨?_, ?_, ?_, ?_, ?_⟩
  · intro index record logged
    rw [spaced index record logged, sameConfig]
  · rw [Counted, sameConfig] at counted
    exact counted
  · intro label address placed
    obtain ⟨position, places, counts⟩ := exists_placesAt placed
    refine ⟨position, places, fun other also => also.unique places, ?_, counts⟩
    -- The rest of the run has only added records to the log.
    have grown := extends_run ((Session.new config).run (requests.take position))
      (requests.drop position)
    rw [← run_append, List.take_append_drop] at grown
    exact grown.log.length_le
  · exact fun more => session.extends_run more
  · exact fun request error refused => perform_of_refused refused

end Mips32.Session
