/-
# What a failed line leaves behind

A caller may go on after a line that failed, so it matters what such a line has changed.
A line defines labels and then holds at most one statement. It can fail in four ways: the
text is no line, a name is defined that has an address, a data value is no word, or an
instruction is refused. `SourceSession.StopsAfter` tells the last three apart and gives
the names that were defined and the words that were laid down before. The first changes
nothing at all.

Each statement is accounted for by `SourceSession.Leaves`, which says what was added to
the log and which labels got an address. Definitions add nothing to the log, so the
accounts of the statements of a line can be put together, and every label that the line
places is given the address that the line started with.
-/
import Mips32.Proofs.Attribution
import Mips32.Proofs.NamesAndSlots

namespace Mips32

/-! ## Statements that fail -/

/-- Reading data stops at a value that is no word, and all values before it are words. -/
theorem Source.exists_bad_of_readWords {values : List String} {words : List UInt32}
    {cause : Cause} (read : readWords values = (words, some cause)) :
    ∃ good bad rest, values = good ++ bad :: rest ∧
      good.mapM TwoPass.dataWord = some words ∧ TwoPass.dataWord bad = none := by
  induction values generalizing words with
  | nil => cases read
  | cons text rest ih =>
      rw [readWords] at read
      split at read
      · rename_i unread
        cases read
        exact ⟨[], text, rest, rfl, rfl, by rw [TwoPass.dataWord, unread]; rfl⟩
      · rename_i value number
        have word : TwoPass.dataWord text = word32? value := by
          rw [TwoPass.dataWord, number]
          rfl
        split at read
        · rename_i large
          cases read
          exact ⟨[], text, rest, rfl, rfl, word.trans large⟩
        · rename_i first small
          cases later : readWords rest with
          | mk words fault =>
              rw [later] at read
              cases read
              obtain ⟨good, bad, others, rfl, readGood, wrong⟩ := ih later
              refine ⟨text :: good, bad, others, rfl, ?_, wrong⟩
              rw [List.mapM_cons, readGood, word, small]
              rfl

namespace SourceSession

variable {source after : SourceSession}

/-- A statement that fails changes nothing once its labels are created, unless it is a
statement of data. -/
theorem carryOut_of_failed {meaning : Meaning} {diagnostic : Diagnostic}
    (other : ∀ words fault, meaning ≠ .words words fault)
    (failed : source.carryOut meaning = (after, .error diagnostic)) : after = source := by
  cases meaning with
  | define name =>
      rw [carryOut] at failed
      split at failed <;> cases failed
      rfl
  | words words fault => exact absurd rfl (other words fault)
  | pseudo pseudo => cases failed
  | entry entry operands =>
      rw [carryOut] at failed
      split at failed <;> cases failed
      rfl
  | refused mentioned cause =>
      cases failed
      rfl

/-! ## Accounts of what was added -/

/-- A later state of a source session: words of data were added to the log, and some names
were defined, all at the address that was reached before. No other label got an address. -/
structure Leaves (source : SourceSession) (defined : List String) (words : List UInt32)
    (after : SourceSession) : Prop where
  log : after.session.log.toList =
    source.session.log.toList ++ Session.recordsFrom source.session.pc (words.map .data)
  pc : after.session.pc = source.session.pc + 4 * UInt32.ofNat words.length
  keeps : source.Keeps after
  known : ∀ name ∈ defined, ∃ label, after.names.lookup name = some label
  placed : ∀ {label address}, after.session.labels.address label = .ok address ↔
    source.session.labels.address label = .ok address ∨
      address = source.session.pc ∧ ∃ name ∈ defined, after.names.lookup name = some label

namespace Leaves

theorem refl (source : SourceSession) : source.Leaves [] [] source where
  log := (List.append_nil _).symm
  pc := (UInt32.add_zero _).symm
  keeps := id
  known := List.forall_mem_nil _
  placed := by simp

/-- As long as only names are defined, no address is used up, and what follows starts
where the definitions did. -/
theorem trans {first second third : SourceSession} {defined more : List String}
    {words : List UInt32} (early : first.Leaves defined [] second)
    (late : second.Leaves more words third) : first.Leaves (defined ++ more) words third := by
  have samePc : second.session.pc = first.session.pc :=
    early.pc.trans (UInt32.add_zero _)
  have sameLog : second.session.log.toList = first.session.log.toList :=
    early.log.trans (List.append_nil _)
  -- The names that were defined first have their labels already.
  have settled {name : String} (listed : name ∈ defined) (label : Label) :
      second.names.lookup name = some label ↔ third.names.lookup name = some label := by
    obtain ⟨known, found⟩ := early.known name listed
    rw [found, late.keeps found]
  constructor
  · rw [late.log, sameLog, samePc]
  · rw [late.pc, samePc]
  · exact fun known => late.keeps (early.keeps known)
  · intro name listed
    rcases List.mem_append.mp listed with listed | listed
    · obtain ⟨label, found⟩ := early.known name listed
      exact ⟨label, late.keeps found⟩
    · exact late.known name listed
  · intro label address
    have split : (∃ name ∈ defined ++ more, third.names.lookup name = some label) ↔
        (∃ name ∈ defined, second.names.lookup name = some label) ∨
          ∃ name ∈ more, third.names.lookup name = some label := by
      simp only [List.mem_append, or_and_right, exists_or]
      refine or_congr_left (exists_congr fun name => and_congr_right fun listed => ?_)
      exact (settled listed label).symm
    rw [late.placed, early.placed, samePc, split, and_or_left, or_assoc]

/-- What is left behind does not depend on the account of lines. -/
theorem of_opened {text : String} {defined : List String} {words : List UInt32}
    (leaves : (source.opened text).Leaves defined words after) :
    source.Leaves defined words after :=
  ⟨leaves.log, leaves.pc, leaves.keeps, leaves.known, leaves.placed⟩

end Leaves

theorem leaves_intern (source : SourceSession) (name : String) :
    source.Leaves [] [] (source.intern name) where
  log := (source.appends_intern name).log
  pc := (mentioned_intern source name).pc.trans (UInt32.add_zero _).symm
  keeps := keeps_intern source name
  known := List.forall_mem_nil _
  placed := by
    intro label address
    rw [← toOption_eq_some_iff, toOption_address_intern, toOption_eq_some_iff]
    simp

theorem leaves_foldl_intern (source : SourceSession) (names : List String) :
    source.Leaves [] [] (names.foldl intern source) := by
  induction names generalizing source with
  | nil => exact .refl source
  | cons name rest ih => exact (source.leaves_intern name).trans (ih _)

theorem leaves_place {name : String} {label : Label} {placed : Session}
    (known : source.names.lookup name = some label)
    (success : source.session.place label = .ok placed) :
    source.Leaves [name] [] { source with session := placed } := by
  obtain ⟨labels, bound, rfl⟩ := Session.place_eq_ok_iff.mp success
  constructor
  · exact (List.append_nil _).symm
  · exact (UInt32.add_zero _).symm
  · exact id
  · intro other listed
    rw [List.mem_singleton.mp listed]
    exact ⟨label, known⟩
  · intro other address
    show labels.address other = .ok address ↔ _
    rw [← toOption_eq_some_iff, ← toOption_eq_some_iff, LabelTable.toOption_address_bind bound]
    by_cases same : other = label
    · subst same
      rw [if_pos rfl, LabelTable.toOption_address_of_bind bound]
      simp [known, eq_comm]
    · rw [if_neg same]
      simp [known, Ne.symm same]

theorem leaves_emitAll_data (source : SourceSession) (words : List UInt32) :
    source.Leaves [] words
      { source with session := source.session.emitAll (words.map .data) } where
  log := Session.emitAll_log ..
  pc := (Session.emitAll_pc ..).trans (by rw [List.length_map])
  keeps := id
  known := List.forall_mem_nil _
  placed := by simp [Session.emitAll_labels]

/-! ## Where a line stops -/

/-- The names can be defined one after another: they are different, and none of them has an
address. -/
def Definable (source : SourceSession) (names : List String) : Prop :=
  names.Nodup ∧ ∀ name ∈ names, source.address? name = none

/-- Where the statements of a line stop when they fail, with the names that they define
before and the words that they lay down before. -/
inductive StopsAfter (source : SourceSession) :
    List Statement → List String → List UInt32 → Prop
  /-- A name has an address, or is defined earlier on the line. -/
  | definition {names : List String} {name : String} {rest : List Statement}
      (fresh : source.Definable names) (taken : ¬ source.Definable (names ++ [name])) :
      StopsAfter source (names.map .label ++ .label name :: rest) names []
  /-- A data value is no word. -/
  | word {names good rest : List String} {bad : String} {words : List UInt32}
      (fresh : source.Definable names) (read : good.mapM TwoPass.dataWord = some words)
      (wrong : TwoPass.dataWord bad = none) :
      StopsAfter source (names.map .label ++ [.word (good ++ bad :: rest)]) names words
  /-- An instruction is refused. -/
  | instr {names : List String} {mnemonic : String} {operands : List String}
      (fresh : source.Definable names) :
      StopsAfter source (names.map .label ++ [.instr mnemonic operands]) names []

theorem definable_nil (source : SourceSession) : source.Definable [] :=
  ⟨List.nodup_nil, List.forall_mem_nil _⟩

theorem StopsAfter.of_taken {name : String} (taken : source.address? name ≠ none)
    (rest : List Statement) : source.StopsAfter (.label name :: rest) [] [] :=
  .definition source.definable_nil fun fresh => taken (fresh.2 name (List.mem_singleton_self name))

/-- What stops after a definition stops in the same place with the definition. -/
theorem StopsAfter.cons {middle : SourceSession} {name : String} {program : List Statement}
    {defined : List String} {words : List UInt32}
    (step : ∀ names, source.Definable (name :: names) ↔ middle.Definable names)
    (stops : middle.StopsAfter program defined words) :
    source.StopsAfter (.label name :: program) (name :: defined) words := by
  cases stops with
  | definition fresh taken =>
      exact .definition ((step _).mpr fresh) fun free => taken ((step _).mp free)
  | word fresh read wrong => exact .word ((step _).mpr fresh) read wrong
  | instr fresh => exact .instr ((step _).mpr fresh)

/-- Where statements stop does not depend on the account of lines. -/
theorem StopsAfter.of_opened {text : String} {program : List Statement} {defined : List String}
    {words : List UInt32} (stops : (source.opened text).StopsAfter program defined words) :
    source.StopsAfter program defined words := by
  cases stops with
  | definition fresh taken => exact .definition fresh taken
  | word fresh read wrong => exact .word fresh read wrong
  | instr fresh => exact .instr fresh

/-- Once a name is defined, the names after it have to be different from it. -/
theorem definable_cons_iff {middle : SourceSession} {name : String} {pc : UInt32}
    (undefined : source.address? name = none)
    (changed : ∀ other, middle.address? other =
      if other = name then some pc else source.address? other) (names : List String) :
    source.Definable (name :: names) ↔ middle.Definable names := by
  constructor
  · rintro ⟨distinct, free⟩
    obtain ⟨absent, distinct⟩ := List.nodup_cons.mp distinct
    refine ⟨distinct, fun other listed => ?_⟩
    have different : other ≠ name := fun same => absent (same ▸ listed)
    rw [changed, if_neg different]
    exact free other (List.mem_cons_of_mem name listed)
  · rintro ⟨distinct, free⟩
    have different {other : String} (listed : other ∈ names) : other ≠ name := fun same => by
      have missing := free other listed
      rw [changed, if_pos same] at missing
      cases missing
    have absent : name ∉ names := fun listed => different listed rfl
    refine ⟨List.nodup_cons.mpr ⟨absent, distinct⟩, List.forall_mem_cons.mpr ⟨undefined, ?_⟩⟩
    intro other listed
    rw [← free other listed, changed, if_neg (different listed)]

/-- A name without an address is defined, and one with an address is not. -/
theorem statement_label_cases (named : source.Named) (name : String) :
    (∃ middle, source.statement (.label name) = (middle, .ok ()) ∧ middle.Named ∧
        source.Leaves [name] [] middle ∧
        ∀ names, source.Definable (name :: names) ↔ middle.Definable names) ∨
      ∃ after diagnostic, source.statement (.label name) = (after, .error diagnostic) ∧
        source.address? name ≠ none ∧ source.Leaves [] [] after := by
  have mentioned := mentioned_intern source name
  have interned := source.leaves_intern name
  obtain ⟨label, known⟩ := mentioned.known name (List.mem_singleton_self name)
  have free := exists_place_iff (mentioned.named named) known
  rw [mentioned.address] at free
  show (∃ middle, (source.intern name).carryOut (.define name) = _ ∧ _) ∨
    ∃ after diagnostic, (source.intern name).carryOut (.define name) = _ ∧ _
  rw [carryOut, handle_of_lookup known]
  cases outcome : (source.intern name).session.place label with
  | error error =>
      refine .inr ⟨_, _, rfl, ?_, interned⟩
      rw [Ne, ← free, outcome]
      rintro ⟨placed, success⟩
      cases success
  | ok placed =>
      have changed := address?_place (mentioned.named named) known outcome
      simp only [mentioned.address] at changed
      exact .inl ⟨_, rfl, (mentioned.named named).place outcome,
        interned.trans (leaves_place known outcome),
        definable_cons_iff (free.mp ⟨placed, outcome⟩) changed⟩

/-- A single statement that fails has defined no name. -/
theorem statement_stops (named : source.Named) {statement : Statement} {diagnostic : Diagnostic}
    (failed : source.statement statement = (after, .error diagnostic)) :
    ∃ words, source.StopsAfter [statement] [] words ∧ source.Leaves [] words after := by
  cases statement with
  | label name =>
      obtain ⟨middle, carried, -⟩ | ⟨_, _, refused, taken, leaves⟩ :=
        statement_label_cases named name
      · rw [carried] at failed
        cases failed
      · rw [refused] at failed
        cases failed
        exact ⟨[], .of_taken taken [], leaves⟩
  | word values =>
      cases read : Source.readWords values with
      | mk words fault =>
          rw [SourceSession.statement, Statement.meaning, read] at failed
          cases fault with
          | none => cases failed
          | some cause =>
              cases failed
              obtain ⟨good, bad, rest, rfl, readGood, wrong⟩ :=
                Source.exists_bad_of_readWords read
              exact ⟨words, .word source.definable_nil readGood wrong,
                source.leaves_emitAll_data words⟩
  | instr mnemonic operands =>
      have noData (words : List UInt32) (fault : Option Cause) :
          (Statement.instr mnemonic operands).meaning ≠ .words words fault := by
        obtain ⟨_, formed⟩ | ⟨_, _, formed⟩ | ⟨_, _, formed⟩ :=
          Statement.meaning_instr_cases mnemonic operands
        all_goals simp [formed]
      rw [SourceSession.statement] at failed
      obtain rfl := carryOut_of_failed noData failed
      exact ⟨[], .instr source.definable_nil, source.leaves_foldl_intern _⟩

/-- The statements of a line that fail leave the names defined that stand before the fault,
and the words before the first bad value. -/
theorem statements_stop (named : source.Named) {names : List String} {body : List Statement}
    (single : body.length ≤ 1) {diagnostic : Diagnostic}
    (failed : source.statements (names.map .label ++ body) = (after, .error diagnostic)) :
    ∃ defined words, source.StopsAfter (names.map .label ++ body) defined words ∧
      source.Leaves defined words after := by
  induction names generalizing source with
  | nil =>
      match body, single with
      | [], _ => cases failed
      | [only], _ =>
          rw [List.map_nil, List.nil_append, statements] at failed
          split at failed
          · rename_i refused
            cases failed
            obtain ⟨words, stops, leaves⟩ := statement_stops named refused
            exact ⟨[], words, stops, leaves⟩
          · cases failed
  | cons name rest ih =>
      rw [List.map_cons, List.cons_append] at failed ⊢
      rw [statements] at failed
      obtain ⟨middle, carried, stillNamed, leaves, step⟩ |
        ⟨_, _, refused, taken, leaves⟩ := statement_label_cases named name
      · rw [carried] at failed
        obtain ⟨defined, words, stops, others⟩ := ih stillNamed failed
        exact ⟨name :: defined, words, stops.cons step, leaves.trans others⟩
      · rw [refused] at failed
        cases failed
        exact ⟨[], [], .of_taken taken _, leaves⟩

/-! ## Lines that fail -/

/-- The names of a session that was reached stand for different labels of the table. -/
theorem Booked.uniquelyNamed (booked : source.Booked) : source.Named where
  inside := booked.index_lt
  apart first second :=
    Option.some.inj ((booked.named.mp first).symm.trans (booked.named.mp second))

/-- A line, whatever becomes of it, changes nothing that the session held before. -/
theorem extends_line (source : SourceSession) (text : String) :
    source.session.Extends (source.line text).1.session := by
  obtain ⟨program, same⟩ := source.exists_statements_of_line text
  rw [show (source.line text).1.session = _ from congrArg (·.session) same]
  exact source.extends_statements program

/-- A line that fails is read and charged with nothing. -/
theorem lines_of_failed {text : String} {diagnostic : Diagnostic}
    (failed : (source.line text).2 = .error diagnostic) :
    (source.line text).1.lines = source.lines.push (Text.trimmed text) ∧
      (source.line text).1.origin = source.origin := by
  obtain ⟨added, _, appends, -, -⟩ | ⟨added, after, appends, succeeds⟩ := source.line_cases text
  · exact ⟨appends.lines, appends.origin⟩
  · rw [succeeds] at failed
    cases failed

/-- A line that fails leaves behind what its statements did before the fault, and nothing
if the text is no line. -/
theorem line_stops (named : source.Named) {text : String} {diagnostic : Diagnostic}
    (failed : (source.line text).2 = .error diagnostic) :
    ∃ defined words,
      (∀ program, Statement.parseLine text = .ok program →
        source.StopsAfter program defined words) ∧
      (∀ cause, Statement.parseLine text = .error cause →
        defined = [] ∧ words = [] ∧ (source.line text).1.session = source.session ∧
          (source.line text).1.names = source.names) ∧
      source.Leaves defined words (source.line text).1 := by
  rw [line] at failed ⊢
  dsimp only at failed ⊢
  rw [← opened] at failed ⊢
  cases parsed : Statement.parseLine text with
  | error cause =>
      refine ⟨[], [], ?_, fun _ _ => ⟨rfl, rfl, rfl, rfl⟩, (Leaves.refl _).of_opened⟩
      intro program read
      cases read
  | ok program =>
      rw [parsed] at failed
      dsimp only at failed ⊢
      obtain ⟨names, body, rfl, single⟩ := Statement.parseLine_eq_ok parsed
      cases carried : (source.opened text).statements (names.map .label ++ body) with
      | mk after outcome =>
          rw [carried] at failed
          cases outcome with
          | ok finished => cases failed
          | error stopped =>
              obtain ⟨defined, words, stops, leaves⟩ :=
                statements_stop (named.withLines _) single carried
              refine ⟨defined, words, ?_, ?_, leaves.of_opened⟩
              · intro program read
                cases read
                exact stops.of_opened
              · intro cause unread
                cases unread

/-- What a line that fails leaves behind, whatever lines and statements came before it. The
words of the data values before the first bad one are at the end of the log, and the
address has moved on by four bytes for each of them; a line that fails in another way lays
nothing down. The names that the line defines before its fault are placed at the address
where the line began, and no other label is placed. All other labels have the slots,
the names and the addresses that they had. The line is read and charged with nothing. If
the text is no line, then there is no change to the log, the labels and the names. -/
theorem failed_line_leaves (config : Config) (calls : List Call) (text : String)
    {diagnostic : Diagnostic}
    (failed : (((SourceSession.new config).run calls).line text).2 = .error diagnostic) :
    let source := (SourceSession.new config).run calls
    let after := (source.line text).1
    ∃ (defined : List String) (words : List UInt32),
      (∀ program, Statement.parseLine text = .ok program →
        source.StopsAfter program defined words) ∧
      (∀ cause, Statement.parseLine text = .error cause →
        defined = [] ∧ words = [] ∧ after.session = source.session ∧
          after.names = source.names) ∧
      after.session.log.toList = source.session.log.toList ++
        Session.recordsFrom source.session.pc (words.map .data) ∧
      after.session.pc = source.session.pc + 4 * UInt32.ofNat words.length ∧
      after.origin = source.origin ∧
      after.lines = source.lines.push (Text.trimmed text) ∧
      source.Keeps after ∧
      source.session.Extends after.session ∧
      ∀ label address, after.session.labels.address label = .ok address ↔
        source.session.labels.address label = .ok address ∨
          address = source.session.pc ∧
            ∃ name ∈ defined, after.names.lookup name = some label := by
  have named := ((new_booked config).run calls).uniquelyNamed
  generalize (SourceSession.new config).run calls = source at failed named
  obtain ⟨defined, words, stops, unread, leaves⟩ := line_stops named failed
  obtain ⟨lines, origin⟩ := lines_of_failed failed
  exact ⟨defined, words, stops, unread, leaves.log, leaves.pc, origin, lines, leaves.keeps,
    source.extends_line text, fun _ _ => leaves.placed⟩

/-- The third value of a line is no number. The two labels of the line, one of which a branch
waits for, and the two words before that value stay. -/
theorem failed_line_leaves_words :
    let source := (SourceSession.new {}).run [.line "b a"]
    let text := "a: c: .word 7, -1, x, 3"
    let after := (source.line text).1
    (source.line text).2 = .error ⟨[.line 2 text], .badNumber "x"⟩ ∧
      after.address? "a" = some 4 ∧ after.address? "c" = some 4 ∧ after.session.pc = 12 ∧
      ∃ defined words,
        source.StopsAfter [.label "a", .label "c", .word ["7", "-1", "x", "3"]] defined words ∧
        after.session.log.toList = source.session.log.toList ++
          Session.recordsFrom source.session.pc (words.map .data) := by
  intro source text after
  have evaluated : cause? (source.line text).2 = some ⟨[.line 2 text], .badNumber "x"⟩ ∧
      after.address? "a" = some 4 ∧ after.address? "c" = some 4 ∧ after.session.pc = 12 := by
    decide +kernel
  have parsed : Statement.parseLine text =
      .ok [.label "a", .label "c", .word ["7", "-1", "x", "3"]] :=
    toOption_eq_some_iff.mp (by decide +kernel)
  obtain ⟨refused, first, second, reached⟩ := evaluated
  have failed := cause?_eq_some_iff.mp refused
  obtain ⟨defined, words, stops, -, logged, -⟩ :=
    failed_line_leaves {} [.line "b a"] text failed
  exact ⟨failed, first, second, reached, defined, words, stops _ parsed, logged⟩

end SourceSession

end Mips32
