/-
# One pass and two passes

The assembler that reads a text once, creates labels when they are mentioned and
resolves records at the end agrees with the reference: both assemble the same texts
into the same images.

The relation `Follows` says how the two walk through a piece of program together.
It holds for a statement that is carried out and composes, so it holds for
statements, lines and texts. A statement that is refused makes the reference fail
as well, which is `Blocked`.
-/
import Mips32.Proofs.TwoPass.Encoding

namespace Mips32.TwoPass

/-! ## Both passes over a longer program -/

/-- The address after a program at `pc`. -/
def addressAfterAll (pc : UInt32) (program : List Statement) : UInt32 :=
  program.foldl addressAfter pc

theorem collect_append (pc : UInt32) (symbols : Symbols) (front back : List Statement) :
    collect pc symbols (front ++ back) =
      (collect pc symbols front).bind fun table =>
        collect (addressAfterAll pc front) table back := by
  induction front generalizing pc symbols with
  | nil => rfl
  | cons statement rest ih =>
      simp only [List.cons_append, collect, Option.bind_eq_bind, ih, Option.bind_assoc]
      rfl

theorem encodeAll_append (symbols : Symbols) (pc : UInt32) (front back : List Statement) :
    encodeAll symbols pc (front ++ back) =
      (encodeAll symbols pc front).bind fun words =>
        (encodeAll symbols (addressAfterAll pc front) back).map fun more => words ++ more := by
  induction front generalizing pc with
  | nil => simp [encodeAll, addressAfterAll]
  | cons statement rest ih =>
      rw [List.cons_append, encodeAll, encodeAll, ih]
      have after : addressAfterAll (addressAfter pc statement) rest =
          addressAfterAll pc (statement :: rest) := rfl
      rw [after]
      cases encode symbols pc statement with
      | none => rfl
      | some words =>
          cases encodeAll symbols (addressAfter pc statement) rest with
          | none => rfl
          | some more =>
              cases encodeAll symbols (addressAfterAll pc (statement :: rest)) back with
              | none => rfl
              | some last => exact congrArg some (List.append_assoc words more last).symm

/-! ## Walking together -/

/-- The symbols hold the addresses that a source session knows so far. -/
def Matches (symbols : Symbols) (source : SourceSession) : Prop :=
  ∀ name, symbols.lookup name = source.address? name

/-- A source session that carries out `program` and reaches `after` stays in step
with both passes of the reference. The second pass is stated for the label table
and the handles that the whole text leads to, which are not known yet. -/
structure Follows (source : SourceSession) (program : List Statement)
    (after : SourceSession) : Prop where
  named : after.Named
  keeps : source.Keeps after
  config : after.session.config = source.session.config
  pc : after.session.pc = addressAfterAll source.session.pc program
  collected : ∀ symbols, Matches symbols source →
    ∃ table, collect source.session.pc symbols program = some table ∧ Matches table after
  encoded : ∃ records, after.session.log.toList = source.session.log.toList ++ records ∧
    ∀ symbols handle labels, Agrees symbols handle labels →
      (∀ name label, after.names.lookup name = some label → handle name = label) →
      encodeAll symbols source.session.pc program = wordsOf? labels records

/-- No way of going on lets the reference succeed from here. -/
def Blocked (source : SourceSession) (program : List Statement) : Prop :=
  ∀ symbols, Matches symbols source →
    collect source.session.pc symbols program = none ∨
      ∀ table, encodeAll table source.session.pc program = none

theorem Follows.refl {source : SourceSession} (named : source.Named) :
    Follows source [] source where
  named := named
  keeps := id
  config := rfl
  pc := rfl
  collected symbols matched := ⟨symbols, rfl, matched⟩
  encoded := ⟨[], (List.append_nil _).symm, fun _ _ _ _ _ => rfl⟩

theorem Follows.append {source middle after : SourceSession} {front back : List Statement}
    (first : Follows source front middle) (second : Follows middle back after) :
    Follows source (front ++ back) after where
  named := second.named
  keeps := fun known => second.keeps (first.keeps known)
  config := second.config.trans first.config
  pc := by
    rw [second.pc, first.pc, addressAfterAll, addressAfterAll, addressAfterAll,
      List.foldl_append]
  collected := by
    intro symbols matched
    obtain ⟨table, collected, matched⟩ := first.collected symbols matched
    obtain ⟨final, collectedRest, matched⟩ := second.collected table matched
    refine ⟨final, ?_, matched⟩
    rw [collect_append, collected, Option.bind_some, ← first.pc, collectedRest]
  encoded := by
    obtain ⟨records, logged, encoded⟩ := first.encoded
    obtain ⟨more, loggedMore, encodedMore⟩ := second.encoded
    refine ⟨records ++ more, ?_, ?_⟩
    · rw [loggedMore, logged, List.append_assoc]
    · intro symbols handle labels agrees known
      have knownEarlier : ∀ name label, middle.names.lookup name = some label →
          handle name = label :=
        fun name label found => known name label (second.keeps found)
      rw [encodeAll_append, encoded symbols handle labels agrees knownEarlier, ← first.pc,
        encodedMore symbols handle labels agrees known, wordsOf?_append]

theorem Blocked.append {source : SourceSession} {front : List Statement}
    (blocked : Blocked source front) (back : List Statement) :
    Blocked source (front ++ back) := by
  intro symbols matched
  rcases blocked symbols matched with stopped | stopped
  · left
    rw [collect_append, stopped]
    rfl
  · right
    intro table
    rw [encodeAll_append, stopped table]
    rfl

theorem Follows.blocked {source middle : SourceSession} {front back : List Statement}
    (first : Follows source front middle) (blocked : Blocked middle back) :
    Blocked source (front ++ back) := by
  intro symbols matched
  obtain ⟨table, collected, matched⟩ := first.collected symbols matched
  rcases blocked table matched with stopped | stopped
  · left
    rw [collect_append, collected, Option.bind_some, ← first.pc, stopped]
  · right
    intro final
    rw [encodeAll_append, ← first.pc, stopped final]
    cases encodeAll final source.session.pc front <;> rfl

/-! ## One statement -/

theorem collect_singleton (pc : UInt32) (symbols : Symbols) (statement : Statement) :
    collect pc symbols [statement] = note pc symbols statement := by
  simp [collect]

theorem encodeAll_singleton (symbols : Symbols) (pc : UInt32) (statement : Statement) :
    encodeAll symbols pc [statement] = encode symbols pc statement := by
  simp [encodeAll]

theorem note_of_not_label {statement : Statement}
    (other : ∀ name, statement.meaning ≠ .define name) (pc : UInt32) (symbols : Symbols) :
    note pc symbols statement = some symbols := by
  cases statement with
  | label name => exact absurd rfl (other name)
  | word values => rfl
  | instr mnemonic operands => rfl

/-- A definition that is carried out is noted by the first pass. -/
theorem follows_label {source interned : SourceSession} (named : source.Named) {name : String}
    (mentioned : source.Mentioned [name] interned) {placed : Session}
    (success : interned.session.place (interned.handle name) = .ok placed) :
    Follows source [.label name] { interned with session := placed } := by
  obtain ⟨label, known⟩ := mentioned.known name (List.mem_singleton_self name)
  rw [SourceSession.handle_of_lookup known] at success
  have undefined : source.address? name = none := by
    rw [← mentioned.address]
    exact (SourceSession.exists_place_iff (mentioned.named named) known).mp ⟨placed, success⟩
  have defined := SourceSession.address?_place (mentioned.named named) known success
  have placedNamed := (mentioned.named named).place success
  obtain ⟨labels, -, rfl⟩ := Session.place_eq_ok_iff.mp success
  constructor
  · exact placedNamed
  · exact mentioned.keeps
  · exact mentioned.config
  · show interned.session.pc = source.session.pc + 4 * UInt32.ofNat 0
    rw [mentioned.pc]
    exact (UInt32.add_zero _).symm
  · intro symbols matched
    refine ⟨(name, source.session.pc) :: symbols, ?_, ?_⟩
    · rw [collect_singleton, note, matched name, undefined]
      rfl
    · intro other
      rw [SourceSession.lookup_cons_eq, defined other, mentioned.address, mentioned.pc,
        matched other]
  · refine ⟨[], ?_, fun symbols handle labels _ _ => rfl⟩
    rw [List.append_nil]
    exact congrArg Array.toList mentioned.log

/-- Instructions that are appended get their words in the second pass, and the first
pass counts them. -/
theorem follows_instrs {source interned : SourceSession} (named : source.Named)
    {statement : Statement} (other : ∀ name, statement.meaning ≠ .define name)
    (mentioned : source.Mentioned statement.meaning.mentioned interned)
    {instrs : List Symbolic}
    (formed : statement.meaning.instrs interned.handle interned.session.pc = some instrs) :
    Follows source [statement]
      { interned with session := interned.session.emitAll instrs } := by
  constructor
  · exact (mentioned.named named).emitAll instrs
  · exact mentioned.keeps
  · exact (Session.emitAll_config ..).trans mentioned.config
  · show (interned.session.emitAll instrs).pc = addressAfter source.session.pc statement
    rw [Session.emitAll_pc, mentioned.pc, length_instrs formed, addressAfter]
  · intro symbols matched
    refine ⟨symbols, ?_, ?_⟩
    · rw [collect_singleton, note_of_not_label other]
    · intro name
      rw [SourceSession.address?_emitAll, mentioned.address, matched name]
  · refine ⟨Session.recordsFrom source.session.pc instrs, ?_, ?_⟩
    · rw [Session.emitAll_log, mentioned.log, mentioned.pc]
    · intro symbols handle labels agrees known
      have sameHandles : ∀ name ∈ statement.meaning.mentioned,
          interned.handle name = handle name := by
        intro name listed
        obtain ⟨label, found⟩ := mentioned.known name listed
        rw [SourceSession.handle_of_lookup found, known name label found]
      rw [Meaning.instrs_congr sameHandles, mentioned.pc] at formed
      rw [encodeAll_singleton, encode_eq_wordsOf? agrees formed]

/-- A statement that is carried out keeps the reference in step. -/
theorem follows_statement {source after : SourceSession} (named : source.Named)
    {statement : Statement} (success : source.statement statement = (after, .ok ())) :
    Follows source [statement] after := by
  have mentioned := SourceSession.mentioned_foldl_intern source statement.meaning.mentioned
  rw [SourceSession.statement] at success
  obtain ⟨name, placed, defines, bound, result⟩ | ⟨name, diagnostic, -, -, result⟩ |
    ⟨instrs, other, formed, result⟩ | ⟨stuck, diagnostic, -, result⟩ :=
    SourceSession.carryOut_cases _ statement.meaning
  · rw [success] at result
    cases result
    cases Statement.eq_label_of_meaning defines
    exact follows_label named mentioned bound
  · rw [success] at result
    cases result
  · rw [success] at result
    cases result
    exact follows_instrs named other mentioned formed
  · rw [success] at result
    cases result

/-- A statement that is refused stops one of the two passes. -/
theorem blocked_statement {source after : SourceSession} (named : source.Named)
    {statement : Statement} {diagnostic : Diagnostic}
    (failure : source.statement statement = (after, .error diagnostic)) :
    Blocked source [statement] := by
  have mentioned := SourceSession.mentioned_foldl_intern source statement.meaning.mentioned
  rw [SourceSession.statement] at failure
  intro symbols matched
  obtain ⟨name, placed, -, -, result⟩ | ⟨name, diagnostic, defines, taken, result⟩ |
    ⟨instrs, -, -, result⟩ | ⟨stuck, diagnostic, refused, result⟩ :=
    SourceSession.carryOut_cases _ statement.meaning
  · rw [failure] at result
    cases result
  · -- The name has an address, so the first pass has noted it before.
    left
    cases Statement.eq_label_of_meaning defines
    obtain ⟨label, known⟩ := mentioned.known name (List.mem_singleton_self name)
    rw [SourceSession.handle_of_lookup known,
      SourceSession.exists_place_iff (mentioned.named named) known, mentioned.address,
      ← matched name] at taken
    rw [collect_singleton, note, if_pos (Option.ne_none_iff_isSome.mp taken)]
  · rw [failure] at result
    cases result
  · right
    intro table
    rw [mentioned.pc] at refused
    rw [encodeAll_singleton, encode_eq_none refused]

/-! ## Statements, lines and texts -/

theorem follows_statements {source after : SourceSession} (named : source.Named)
    {program : List Statement} (success : source.statements program = (after, .ok ())) :
    Follows source program after := by
  induction program generalizing source with
  | nil =>
      cases success
      exact .refl named
  | cons statement rest ih =>
      rw [SourceSession.statements] at success
      split at success
      · cases success
      · rename_i middle carried
        have first := follows_statement named carried
        exact first.append (ih first.named success)

theorem blocked_statements {source after : SourceSession} (named : source.Named)
    {program : List Statement} {diagnostic : Diagnostic}
    (failure : source.statements program = (after, .error diagnostic)) :
    Blocked source program := by
  induction program generalizing source with
  | nil => cases failure
  | cons statement rest ih =>
      rw [SourceSession.statements] at failure
      split at failure
      · rename_i refused
        exact (blocked_statement named refused).append rest
      · rename_i middle carried
        have first := follows_statement named carried
        exact first.blocked (ih first.named failure)

/-- The lines that were read and the lines that records are charged to make no
difference. -/
theorem Follows.charge {source after : SourceSession} {lines : Array String}
    {program : List Statement} (follows : Follows { source with lines } program after)
    (number : Nat) : Follows source program (after.charge number) where
  named := ⟨follows.named.inside, follows.named.apart⟩
  keeps := follows.keeps
  config := follows.config
  pc := follows.pc
  collected := follows.collected
  encoded := follows.encoded

theorem follows_line {source after : SourceSession} (named : source.Named) {text : String}
    (success : source.line text = (after, .ok ())) :
    ∃ program, Statement.parseLine text = .ok program ∧ Follows source program after := by
  rw [SourceSession.line] at success
  dsimp only at success
  split at success
  · cases success
  · rename_i program parsed
    split at success
    · cases success
    · rename_i carried
      cases success
      exact ⟨program, parsed, (follows_statements (named.withLines _) carried).charge _⟩

theorem blocked_line {source after : SourceSession} (named : source.Named) {text : String}
    {diagnostic : Diagnostic} (failure : source.line text = (after, .error diagnostic))
    {program : List Statement} (parsed : Statement.parseLine text = .ok program) :
    Blocked source program := by
  rw [SourceSession.line, parsed] at failure
  dsimp only at failure
  split at failure
  · rename_i refused
    have stuck := blocked_statements (named.withLines _) refused
    exact stuck
  · cases failure

/-- The statements of lines, if every line can be read. -/
def parseLines (lines : List String) : Option (List (List Statement)) :=
  lines.mapM fun line => (Statement.parseLine line).toOption

theorem parseLines_cons (line : String) (rest : List String) :
    parseLines (line :: rest) =
      (Statement.parseLine line).toOption.bind fun first =>
        (parseLines rest).map fun others => first :: others := by
  simp only [parseLines, List.mapM_cons, Option.map_eq_bind]
  rfl

theorem follows_feed {source after : SourceSession} (named : source.Named)
    {lines : List String} (success : source.feed lines = .ok after) :
    ∃ programs, parseLines lines = some programs ∧ Follows source programs.flatten after := by
  induction lines generalizing source with
  | nil =>
      cases success
      exact ⟨[], rfl, .refl named⟩
  | cons line rest ih =>
      rw [SourceSession.feed] at success
      split at success
      · cases success
      · rename_i middle fed
        obtain ⟨program, parsed, first⟩ := follows_line named fed
        obtain ⟨programs, parsedRest, others⟩ := ih first.named success
        refine ⟨program :: programs, ?_, first.append others⟩
        rw [parseLines_cons, parsed, parsedRest]
        rfl

theorem blocked_feed {source : SourceSession} (named : source.Named) {lines : List String}
    {diagnostic : Diagnostic} (failure : source.feed lines = .error diagnostic)
    {programs : List (List Statement)} (parsed : parseLines lines = some programs) :
    Blocked source programs.flatten := by
  induction lines generalizing source programs with
  | nil => cases failure
  | cons line rest ih =>
      rw [parseLines_cons, Option.bind_eq_some_iff] at parsed
      obtain ⟨program, parsedLine, parsed⟩ := parsed
      obtain ⟨others, parsedRest, rfl⟩ := Option.map_eq_some_iff.mp parsed
      rw [toOption_eq_some_iff] at parsedLine
      rw [SourceSession.feed] at failure
      split at failure
      · rename_i refused
        exact (blocked_line named refused parsedLine).append others.flatten
      · rename_i middle fed
        obtain ⟨sameProgram, sameParsed, first⟩ := follows_line named fed
        cases parsedLine.symm.trans sameParsed
        exact first.blocked (ih first.named failure parsedRest)

theorem toOption_finish (source : SourceSession) :
    source.finish.toOption = source.session.image.toOption := by
  rw [SourceSession.finish]
  cases source.session.image <;> rfl

/-- Assembling in one pass, with labels filled in at the end, agrees with assembling
in two passes on every text: on whether there is an image, and on the image. -/
theorem toOption_assemble (config : Config) (text : String) :
    (Mips32.assemble config text).toOption = TwoPass.assemble config text := by
  have named := SourceSession.new_named config
  have matched : Matches [] (SourceSession.new config) :=
    fun name => (SourceSession.address?_new config name).symm
  rw [Mips32.assemble, toOption_bind, TwoPass.assemble, parse]
  generalize (Text.lines text.toList).map String.ofList = lines
  show _ = ((parseLines lines).bind _).bind _
  cases fed : (SourceSession.new config).feed lines with
  | error diagnostic =>
      cases parsed : parseLines lines with
      | none => rfl
      | some programs =>
          have stopped := blocked_feed named fed parsed [] matched
          change collect config.start [] _ = none ∨ ∀ table, encodeAll table config.start _ = none
            at stopped
          rcases stopped with first | second
          · simp [first]
          · simp [second]
  | ok after =>
      obtain ⟨programs, parsed, follows⟩ := follows_feed named fed
      obtain ⟨table, collected, agrees⟩ := follows.collected [] matched
      obtain ⟨records, logged, encoded⟩ := follows.encoded
      have words : encodeAll table config.start programs.flatten =
          wordsOf? after.session.labels after.session.log.toList := by
        rw [logged]
        exact encoded table after.handle after.session.labels agrees
          fun name label => SourceSession.handle_of_lookup
      show after.finish.toOption = _
      rw [toOption_finish, Session.toOption_image, follows.config, parsed, ← words]
      change collect config.start [] programs.flatten = some table at collected
      show _ = (collect config.start [] programs.flatten).bind _
      rw [collected, Option.bind_some]
      exact Option.map_eq_bind

end Mips32.TwoPass
