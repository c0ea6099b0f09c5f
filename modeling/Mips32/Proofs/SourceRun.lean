/-
# Source sessions as runs of requests

A source session reaches its assembly session only by requests, so whatever holds after
every run of requests holds while a text is assembled. And a text that is read line by
line leads to the session that its statements lead to, one after another: the lines that
were read and the lines that records are charged to have no influence on it. Reports of
refused lines do depend on them and are not considered here.
-/
import Mips32.Proofs.TwoPass.Agreement

namespace Mips32

/-! ## Requests -/

theorem Session.emitAll_eq_run (session : Session) (instrs : List Symbolic) :
    session.emitAll instrs = session.run (instrs.map .emit) := by
  induction instrs generalizing session with
  | nil => rfl
  | cons instr rest ih => exact ih (session.emit instr)

namespace SourceSession

theorem exists_run_foldl_intern (source : SourceSession) (names : List String) :
    ∃ requests, (names.foldl intern source).session = source.session.run requests := by
  induction names generalizing source with
  | nil => exact ⟨[], rfl⟩
  | cons name rest ih =>
      obtain ⟨requests, reached⟩ := ih (source.intern name)
      have first : ∃ requests, (source.intern name).session = source.session.run requests := by
        unfold intern
        split
        · exact ⟨[], rfl⟩
        · exact ⟨[.create (some name)], rfl⟩
      obtain ⟨creates, created⟩ := first
      refine ⟨creates ++ requests, ?_⟩
      rw [Session.run_append, ← created]
      exact reached

theorem exists_run_carryOut (source : SourceSession) (meaning : Meaning) :
    ∃ requests, (source.carryOut meaning).1.session = source.session.run requests := by
  cases meaning with
  | define name =>
      rw [carryOut]
      cases outcome : source.session.place (source.handle name) with
      | ok placed =>
          refine ⟨[.place (source.handle name)], ?_⟩
          rw [Session.run_cons, Session.perform, outcome]
          rfl
      | error error => exact ⟨[], rfl⟩
  | words values fault => exact ⟨_, Session.emitAll_eq_run ..⟩
  | pseudo pseudo => exact ⟨_, Session.emitAll_eq_run ..⟩
  | entry entry operands =>
      rw [carryOut]
      cases outcome : entry.instruction source.session.pc
          (operands.map (·.map source.handle)) with
      | ok instr => exact ⟨[.emit instr], rfl⟩
      | error error => exact ⟨[], rfl⟩
  | refused mentioned cause => exact ⟨[], rfl⟩

theorem exists_run_statement (source : SourceSession) (statement : Statement) :
    ∃ requests, (source.statement statement).1.session = source.session.run requests := by
  obtain ⟨creates, created⟩ :=
    source.exists_run_foldl_intern statement.meaning.mentioned
  obtain ⟨requests, reached⟩ :=
    exists_run_carryOut (statement.meaning.mentioned.foldl intern source) statement.meaning
  refine ⟨creates ++ requests, ?_⟩
  rw [Session.run_append, ← created]
  exact reached

/-- Statements, whatever becomes of them, act on the assembly session by requests. -/
theorem exists_run_statements (source : SourceSession) (program : List Statement) :
    ∃ requests, (source.statements program).1.session = source.session.run requests := by
  induction program generalizing source with
  | nil => exact ⟨[], rfl⟩
  | cons first rest ih =>
      obtain ⟨requests, reached⟩ := source.exists_run_statement first
      rw [statements]
      split
      · rename_i carried
        rw [carried] at reached
        exact ⟨requests, reached⟩
      · rename_i middle carried
        rw [carried] at reached
        obtain ⟨more, reachedMore⟩ := ih middle
        refine ⟨requests ++ more, ?_⟩
        rw [reachedMore, Session.run_append, ← reached]

theorem extends_statement (source : SourceSession) (statement : Statement) :
    source.session.Extends (source.statement statement).1.session := by
  obtain ⟨requests, reached⟩ := source.exists_run_statement statement
  rw [reached]
  exact source.session.extends_run requests

/-- A source session only grows. -/
theorem extends_statements (source : SourceSession) (program : List Statement) :
    source.session.Extends (source.statements program).1.session := by
  obtain ⟨requests, reached⟩ := source.exists_run_statements program
  rw [reached]
  exact source.session.extends_run requests

/-! ## Statements one after another -/

/-- A program is carried out if its front is and then its back. -/
theorem statements_append_eq_ok_iff {source after : SourceSession}
    {front back : List Statement} :
    source.statements (front ++ back) = (after, .ok ()) ↔
      ∃ middle, source.statements front = (middle, .ok ()) ∧
        middle.statements back = (after, .ok ()) := by
  induction front generalizing source with
  | nil => simp [statements]
  | cons first rest ih =>
      rw [List.cons_append, statements, statements]
      split
      · simp
      · exact ih

/-! ## Lines and statements -/

/-- A source session without a trace of the lines it has read. -/
def bare (source : SourceSession) : SourceSession :=
  { source with lines := #[], origin := #[] }

theorem intern_bare (source : SourceSession) (name : String) :
    source.bare.intern name = (source.intern name).bare := by
  unfold intern bare
  dsimp only
  split <;> rfl

theorem foldl_intern_bare (source : SourceSession) (names : List String) :
    names.foldl intern source.bare = (names.foldl intern source).bare := by
  induction names generalizing source with
  | nil => rfl
  | cons name rest ih => rw [List.foldl_cons, intern_bare, ih, List.foldl_cons]

theorem carryOut_bare (source : SourceSession) (meaning : Meaning) :
    source.bare.carryOut meaning =
      ((source.carryOut meaning).1.bare, (source.carryOut meaning).2) := by
  cases meaning with
  | define name =>
      have sameOutcome : source.bare.session.place (source.bare.handle name) =
          source.session.place (source.handle name) := rfl
      rw [carryOut, carryOut, sameOutcome]
      cases source.session.place (source.handle name) <;> rfl
  | words values fault => rfl
  | pseudo pseudo => rfl
  | entry entry operands =>
      have sameHandle : source.bare.handle = source.handle := rfl
      have samePc : source.bare.session.pc = source.session.pc := rfl
      rw [carryOut, carryOut, sameHandle, samePc]
      cases entry.instruction source.session.pc (operands.map (·.map source.handle)) <;> rfl
  | refused mentioned cause => rfl

theorem statement_bare (source : SourceSession) (statement : Statement) :
    source.bare.statement statement =
      ((source.statement statement).1.bare, (source.statement statement).2) := by
  rw [SourceSession.statement, foldl_intern_bare, carryOut_bare]
  rfl

theorem statements_bare (source : SourceSession) (program : List Statement) :
    source.bare.statements program =
      ((source.statements program).1.bare, (source.statements program).2) := by
  induction program generalizing source with
  | nil => rfl
  | cons first rest ih =>
      rw [statements, statements, statement_bare]
      cases carried : source.statement first with
      | mk middle outcome =>
          cases outcome with
          | error diagnostic => rfl
          | ok done => exact ih middle

theorem statements_of_line {source after : SourceSession} {text : String}
    (success : source.line text = (after, .ok ())) :
    ∃ program, Statement.parseLine text = .ok program ∧
      source.bare.statements program = (after.bare, .ok ()) := by
  rw [SourceSession.line] at success
  dsimp only at success
  split at success
  · cases success
  · rename_i program parsed
    split at success
    · cases success
    · rename_i carried
      cases success
      have unmarked := statements_bare
        { source with lines := source.lines.push (Text.trimmed text) } program
      rw [carried] at unmarked
      exact ⟨program, parsed, unmarked⟩

/-- Lines that are all assembled carry out the statements of all of them. -/
theorem statements_of_feed {source after : SourceSession} {lines : List String}
    (success : source.feed lines = .ok after) :
    ∃ programs, TwoPass.parseLines lines = some programs ∧
      source.bare.statements programs.flatten = (after.bare, .ok ()) := by
  induction lines generalizing source with
  | nil =>
      cases success
      exact ⟨[], rfl, rfl⟩
  | cons line rest ih =>
      rw [feed] at success
      split at success
      · cases success
      · rename_i middle fed
        obtain ⟨program, parsed, carried⟩ := statements_of_line fed
        obtain ⟨programs, parsedRest, carriedRest⟩ := ih success
        refine ⟨program :: programs, ?_, ?_⟩
        · rw [TwoPass.parseLines_cons, parsed, parsedRest]
          rfl
        · rw [List.flatten_cons, statements_append_eq_ok_iff]
          exact ⟨middle.bare, carried, carriedRest⟩

end SourceSession

end Mips32
