/-
# The layout of a text

Comments, empty lines, spacing and the distribution of statements over lines do not
matter. What comes of a text whose lines can all be read depends on its statements alone:
the image, or the cause for which it is refused. Only the places that a refusal is charged
to depend on the lines.
-/
import Mips32.Proofs.Attribution
import Mips32.Proofs.SourceRun

namespace Mips32

namespace SourceSession

/-- What comes of carrying out statements and then finishing, with the cause of a refusal
and without its places. -/
def conclude (source : SourceSession) (program : List Statement) : Except Cause Image := do
  (source.statements program).2.mapError Diagnostic.cause
  (source.statements program).1.finish.mapError Diagnostic.cause

/-! ## Statements -/

/-- A program is concluded from where its front leads, unless its front is refused. -/
theorem conclude_append (source : SourceSession) (front back : List Statement) :
    source.conclude (front ++ back) =
      (source.statements front).2.mapError Diagnostic.cause >>= fun _ =>
        (source.statements front).1.conclude back := by
  induction front generalizing source with
  | nil => rfl
  | cons first rest ih =>
      rw [List.cons_append, conclude, statements, statements]
      cases source.statement first with
      | mk middle outcome =>
          cases outcome with
          | error diagnostic => rfl
          | ok done => exact ih middle

/-- The lines that were read have an influence on the places of a refusal only. -/
theorem mapError_finish_bare (source : SourceSession) :
    source.bare.finish.mapError Diagnostic.cause = source.finish.mapError Diagnostic.cause := by
  have sameImage : source.bare.session.image = source.session.image := rfl
  rw [finish, finish, sameImage]
  cases source.session.image <;> rfl

theorem conclude_bare (source : SourceSession) (program : List Statement) :
    source.bare.conclude program = source.conclude program := by
  rw [conclude, statements_bare, mapError_finish_bare]
  rfl

theorem conclude_congr {first second : SourceSession} (same : first.bare = second.bare)
    (program : List Statement) : first.conclude program = second.conclude program := by
  rw [← conclude_bare, same, conclude_bare]

/-! ## Lines -/

/-- A line that can be read carries out its statements. -/
theorem conclude_line {text : String} {program : List Statement}
    (parsed : Statement.parseLine text = .ok program) (source : SourceSession)
    (rest : List Statement) :
    source.conclude (program ++ rest) =
      (source.line text).2.mapError Diagnostic.cause >>= fun _ =>
        (source.line text).1.conclude rest := by
  have sameBare : source.bare = (source.opened text).bare := rfl
  rw [conclude_congr sameBare, conclude_append, SourceSession.line, parsed]
  dsimp only
  rw [← opened]
  cases (source.opened text).statements program with
  | mk after outcome =>
      cases outcome with
      | error diagnostic => rfl
      | ok done =>
          have charged : after.bare = (after.charge (source.opened text).lines.size).bare := rfl
          exact conclude_congr charged rest

/-- Lines that can all be read carry out the statements of all of them, in whatever way the
statements are distributed over the lines. -/
theorem conclude_lines {lines : List String} {programs : List (List Statement)}
    (parsed : TwoPass.parseLines lines = some programs) (source : SourceSession) :
    source.conclude programs.flatten =
      (source.feed lines >>= finish).mapError Diagnostic.cause := by
  induction lines generalizing source programs with
  | nil =>
      cases parsed
      rfl
  | cons text rest ih =>
      rw [TwoPass.parseLines_cons, Option.bind_eq_some_iff] at parsed
      obtain ⟨program, parsedLine, parsed⟩ := parsed
      obtain ⟨others, parsedRest, rfl⟩ := Option.map_eq_some_iff.mp parsed
      rw [List.flatten_cons, conclude_line (toOption_eq_some_iff.mp parsedLine), feed]
      cases source.line text with
      | mk after outcome =>
          cases outcome with
          | error diagnostic => rfl
          | ok done => exact ih parsedRest after

end SourceSession

/-- What comes of a text is what comes of its statements. -/
theorem mapError_assemble {text : String} {program : List Statement}
    (parsed : TwoPass.parse text = some program) (config : Config) :
    (assemble config text).mapError Diagnostic.cause =
      (SourceSession.new config).conclude program := by
  obtain ⟨programs, parsedLines, flat⟩ := Option.bind_eq_some_iff.mp parsed
  cases flat
  exact (SourceSession.conclude_lines parsedLines (SourceSession.new config)).symm

/-- Two texts with the same statements, however these are laid out, have the same image or
are refused for the same cause. -/
theorem assemble_of_same_statements {first second : String} {program : List Statement}
    (parsedFirst : TwoPass.parse first = some program)
    (parsedSecond : TwoPass.parse second = some program) (config : Config) :
    (∀ image, assemble config first = .ok image ↔ assemble config second = .ok image) ∧
      ∀ diagnostic, assemble config first = .error diagnostic →
        ∃ other, assemble config second = .error other ∧ other.cause = diagnostic.cause := by
  have same : (assemble config first).mapError Diagnostic.cause =
      (assemble config second).mapError Diagnostic.cause := by
    rw [mapError_assemble parsedFirst, mapError_assemble parsedSecond]
  constructor
  · intro image
    rw [← mapError_eq_ok_iff, same, mapError_eq_ok_iff]
  · intro diagnostic refused
    rw [← mapError_eq_error_iff, ← same, mapError_eq_error_iff]
    exact ⟨diagnostic, refused, rfl⟩

/-- Labels on one line or on lines of their own, with comments, empty lines and other
spacing. Both texts are assembled, and both are refused when a label is defined again at
the end, though not on the same line. -/
theorem assemble_of_same_statements_spread :
    let config : Config := ⟨0x400000, .big⟩
    let dense := "a: b : beq $t0, $t1, a\nj b"
    let spread := " a:# first\n\nb:\n\tbeq\t$t0 ,$t1,  a\n; jump\n  J   b"
    let program : List Statement := [.label "a", .label "b", .instr "beq" ["$t0", "$t1", "a"],
      .instr "j" ["b"]]
    TwoPass.parse dense = some program ∧ TwoPass.parse spread = some program ∧
      assemble config spread = .ok ⟨0x400000, .big, [0x1109FFFF, 0x08100000]⟩ ∧
      assemble config (dense ++ "\na:") =
        .error ⟨[.line 3 "a:", .label "a"], .labelRedefined "a" 0x400000⟩ ∧
      ∃ other, assemble config (spread ++ " # back\n\na :") = .error other ∧
        other.cause = .labelRedefined "a" 0x400000 := by
  intro config dense spread program
  have readDense : TwoPass.parse dense = some program := by decide +kernel
  have readSpread : TwoPass.parse spread = some program := by decide +kernel
  have assembled : assemble config dense = .ok ⟨0x400000, .big, [0x1109FFFF, 0x08100000]⟩ :=
    toOption_eq_some_iff.mp (by decide +kernel)
  have refused : assemble config (dense ++ "\na:") =
      .error ⟨[.line 3 "a:", .label "a"], .labelRedefined "a" 0x400000⟩ :=
    cause?_eq_some_iff.mp (by decide +kernel)
  have readLonger : TwoPass.parse (dense ++ "\na:") = some (program ++ [.label "a"]) := by
    decide +kernel
  have readLongest : TwoPass.parse (spread ++ " # back\n\na :") =
      some (program ++ [.label "a"]) := by decide +kernel
  exact ⟨readDense, readSpread,
    ((assemble_of_same_statements readDense readSpread config).1 _).mp assembled, refused,
    (assemble_of_same_statements readLonger readLongest config).2 _ refused⟩

end Mips32
