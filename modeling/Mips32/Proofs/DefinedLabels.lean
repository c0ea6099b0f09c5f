/-
# Labels of a text that assembles

Finishing looks at the labels that records wait for and not at the label table. Still no
label is left without an address in a text that assembles. A label is created when a
statement mentions its name, and such a statement is refused, or defines the name, or
appends an instruction that waits for the label. So every label that the table holds is
placed or waited for, and an image exists only if all labels that are waited for are
placed.

A name gets its address from a definition, and a second definition is refused. Thus every
name that is mentioned in the text is defined exactly once, and its address counts the
words of the statements before the definition. The names that are mentioned are those that
are defined and all operands that are identifiers.
-/
import Mips32.Proofs.SourceRun
import Mips32.Proofs.StableImage

namespace Mips32

/-! ## Instructions that wait -/

/-- The expansion of a pseudo-instruction waits for the label it refers to. -/
theorem Pseudo.exists_waiting {pseudo : Pseudo Label} {label : Label}
    (refers : pseudo.label? = some label) :
    ∃ instr ∈ pseudo.expand, instr.label? = some label := by
  cases pseudo with
  | b target | laLabel rd target =>
      cases refers
      exact ⟨_, List.mem_cons_self, rfl⟩
  | blt rs rt target | bge rs rt target | bgt rs rt target | ble rs rt target =>
      cases refers
      exact ⟨_, List.mem_cons_of_mem _ List.mem_cons_self, rfl⟩
  | _ => cases refers

/-- The instruction of an entry waits for every label among its operands. -/
theorem Entry.waits_of_instruction {entry : Entry} {pc : UInt32}
    {operands : List (Operand Label)} {instr : Symbolic}
    (formed : entry.instruction pc operands = .ok instr) {label : Label}
    (listed : .label label ∈ operands) : instr.label? = some label := by
  by_cases taken : entry.shape.Takes operands
  · obtain ⟨mnemonic, shape, opcode, funct, selector⟩ := entry
    cases taken with
    | branch rs rt target | zeroBranch rs target | floatBranch target | jumpToLabel target =>
        cases formed
        obtain rfl : label = target := by simpa using listed
        rfl
    | _ => simp at listed
  · rw [entry.instruction_eq_mismatch taken] at formed
    cases formed

theorem Operand.label_map {L M : Type} (f : L → M) {operand : Operand L} {target : L}
    (refers : operand.label? = some target) : operand.map f = .label (f target) := by
  cases operand with
  | label name =>
      cases refers
      rfl
  | _ => cases refers

/-- A statement that appends instructions appends one that waits for each label that the
statement mentions. -/
theorem Meaning.exists_waiting {handle : String → Label} {pc : UInt32} {meaning : Meaning}
    {instrs : List Symbolic} (other : ∀ name, meaning ≠ .define name)
    (formed : meaning.instrs handle pc = some instrs) {name : String}
    (listed : name ∈ meaning.mentioned) :
    ∃ instr ∈ instrs, instr.label? = some (handle name) := by
  cases meaning with
  | define name => exact absurd rfl (other name)
  | words values fault => cases listed
  | pseudo pseudo =>
      cases formed
      apply Pseudo.exists_waiting
      rw [Pseudo.label?_map, Option.mem_toList.mp listed]
      rfl
  | entry entry operands =>
      obtain ⟨instr, found, rfl⟩ := Option.map_eq_some_iff.mp formed
      obtain ⟨operand, member, refers⟩ := List.mem_filterMap.mp listed
      refine ⟨instr, List.mem_cons_self, ?_⟩
      apply Entry.waits_of_instruction (toOption_eq_some_iff.mp found)
      rw [← Operand.label_map handle refers]
      exact List.mem_map_of_mem member
  | refused mentioned cause => cases formed

/-! ## Labels that are accounted for -/

namespace Session

/-- A label is accounted for if it is placed or a record waits for it. -/
def AccountsFor (session : Session) (label : Label) : Prop :=
  (∃ address, session.labels.address label = .ok address) ∨
    ∃ record ∈ session.log.toList, record.instr.label? = some label

/-- Every label of the table is accounted for. -/
def Accountable (session : Session) : Prop :=
  ∀ label, label.index < session.labels.size → session.AccountsFor label

theorem AccountsFor.of_extends {session after : Session} {label : Label}
    (accounts : session.AccountsFor label) (grown : session.Extends after) :
    after.AccountsFor label := by
  rcases accounts with ⟨address, placed⟩ | ⟨record, logged, waits⟩
  · exact .inl ⟨address, grown.labels.address placed⟩
  · exact .inr ⟨record, grown.log.subset logged, waits⟩

theorem accountsFor_of_emitAll {session : Session} {instrs : List Symbolic} {instr : Symbolic}
    (listed : instr ∈ instrs) {label : Label} (waits : instr.label? = some label) :
    (session.emitAll instrs).AccountsFor label := by
  rw [← map_instr_recordsFrom session.pc instrs] at listed
  obtain ⟨record, found, rfl⟩ := List.mem_map.mp listed
  refine .inr ⟨record, ?_, waits⟩
  rw [emitAll_log]
  exact List.mem_append_right _ found

/-- In a session with an image, a label that is accounted for is placed. -/
theorem AccountsFor.placed_of_image {session : Session} {label : Label}
    (accounts : session.AccountsFor label) {image : Image}
    (finished : session.image = .ok image) :
    ∃ address, session.labels.address label = .ok address := by
  rcases accounts with placed | ⟨record, logged, waits⟩
  · exact placed
  · cases outcome : session.labels.address label with
    | ok address => exact ⟨address, rfl⟩
    | error error =>
        rw [← toOption_eq_some_iff, toOption_image] at finished
        obtain ⟨words, packed, -⟩ := Option.map_eq_some_iff.mp finished
        obtain ⟨index, found⟩ := List.mem_iff_getElem?.mp logged
        obtain ⟨word, hasWord, -⟩ := getElem?_of_wordsOf? packed found
        have unresolved := Symbolic.resolve_of_missing waits outcome record.pc
        rw [Record.word, unresolved] at hasWord
        cases hasWord

end Session

theorem LabelTable.unplaced_eq_nil {table : LabelTable}
    (placed : ∀ label : Label, label.index < table.size →
      ∃ address, table.address label = .ok address) : table.unplaced = [] := by
  rw [unplaced, List.filter_eq_nil_iff]
  intro label listed
  obtain ⟨index, inside, rfl⟩ := List.mem_map.mp listed
  obtain ⟨address, found⟩ := placed ⟨index⟩ (List.mem_range.mp inside)
  rw [← toOption_eq_some_iff, toOption_address] at found
  simp [isPlaced, found]

/-! ## Statements that are carried out -/

namespace SourceSession

/-- Mentioning names creates labels for these names only. -/
theorem exists_name_of_foldl_intern (source : SourceSession) (names : List String)
    {label : Label} (inside : label.index < (names.foldl intern source).session.labels.size) :
    label.index < source.session.labels.size ∨
      ∃ name ∈ names, (names.foldl intern source).names.lookup name = some label := by
  induction names generalizing source with
  | nil => exact .inl inside
  | cons name rest ih =>
      rcases ih (source.intern name) inside with before | ⟨other, listed, known⟩
      · cases found : source.names.lookup name with
        | some known =>
            rw [intern_of_lookup found] at before
            exact .inl before
        | none =>
            rw [size_labels_intern found] at before
            rcases Nat.lt_or_eq_of_le (Nat.le_of_lt_succ before) with old | last
            · exact .inl old
            · -- The last label of the table is the one that `name` was given.
              have created : (source.intern name).names.lookup name = some label := by
                rw [lookup_intern, if_pos rfl, handle, found]
                exact congrArg some (LabelTable.ext_index last.symm)
              have kept := (mentioned_foldl_intern (source.intern name) rest).keeps created
              exact .inr ⟨name, List.mem_cons_self, kept⟩
      · exact .inr ⟨other, List.mem_cons_of_mem _ listed, known⟩

/-- Carrying out a statement adds no name and no label to those that were created
before, and accounts for the labels of the names that the statement mentions. -/
theorem accountsFor_of_carryOut {interned after : SourceSession} {meaning : Meaning}
    (success : interned.carryOut meaning = (after, .ok ())) :
    interned.names = after.names ∧ interned.session.labels.size = after.session.labels.size ∧
      ∀ {name label}, name ∈ meaning.mentioned → interned.names.lookup name = some label →
        after.session.AccountsFor label := by
  obtain ⟨defined, placed, rfl, bound, result⟩ | ⟨name, diagnostic, -, -, result⟩ |
    ⟨instrs, other, formed, result⟩ | ⟨stuck, diagnostic, -, result⟩ :=
    carryOut_cases interned meaning
  · rw [success] at result
    cases result
    refine ⟨rfl, ?_, ?_⟩
    · obtain ⟨labels, bind, rfl⟩ := Session.place_eq_ok_iff.mp bound
      exact (LabelTable.size_bind bind).symm
    · intro name label listed known
      cases List.mem_singleton.mp listed
      rw [handle_of_lookup known] at bound
      exact .inl ⟨_, Session.address_of_place bound⟩
  · rw [success] at result
    cases result
  · rw [success] at result
    cases result
    refine ⟨rfl, ?_, ?_⟩
    · rw [Session.emitAll_labels]
    · intro name label listed known
      obtain ⟨instr, appended, waits⟩ := Meaning.exists_waiting other formed listed
      rw [handle_of_lookup known] at waits
      exact Session.accountsFor_of_emitAll appended waits
  · rw [success] at result
    cases result

/-- A statement that is carried out leaves no label unaccounted for. -/
theorem accountable_statement {source after : SourceSession} {statement : Statement}
    (accountable : source.session.Accountable)
    (success : source.statement statement = (after, .ok ())) : after.session.Accountable := by
  intro label inside
  have grown := source.extends_statement statement
  rw [success] at grown
  obtain ⟨-, size, accounts⟩ := accountsFor_of_carryOut success
  rw [← size] at inside
  -- A label of the table is an old one or was created for a name of this statement.
  rcases source.exists_name_of_foldl_intern _ inside with old | ⟨name, listed, known⟩
  · exact (accountable label old).of_extends grown
  · exact accounts listed known

theorem known_of_statement {source after : SourceSession} {statement : Statement}
    (success : source.statement statement = (after, .ok ())) {name : String}
    (mention : name ∈ statement.meaning.mentioned) :
    ∃ label, after.names.lookup name = some label := by
  obtain ⟨sameNames, -, -⟩ := accountsFor_of_carryOut success
  rw [← sameNames]
  exact (mentioned_foldl_intern source _).known name mention

theorem accountable_statements {source after : SourceSession} {program : List Statement}
    (accountable : source.session.Accountable)
    (success : source.statements program = (after, .ok ())) : after.session.Accountable := by
  induction program generalizing source with
  | nil =>
      cases success
      exact accountable
  | cons statement rest ih =>
      rw [statements] at success
      split at success
      · cases success
      · rename_i middle carried
        exact ih (accountable_statement accountable carried) success

/-- Nothing is refused in a program that is carried out. -/
theorem not_refused_of_statements {source after : SourceSession} {program : List Statement}
    (success : source.statements program = (after, .ok ())) {statement : Statement}
    (listed : statement ∈ program) (mentioned : List String) (cause : Cause) :
    statement.meaning ≠ .refused mentioned cause := by
  intro refused
  induction program generalizing source with
  | nil => cases listed
  | cons first rest ih =>
      rw [statements] at success
      split at success
      · cases success
      · rename_i carried
        rcases List.mem_cons.mp listed with rfl | later
        · rw [SourceSession.statement, refused] at carried
          cases carried
        · exact ih success later

/-- Names that are mentioned anywhere in a program are known after it. -/
theorem known_of_statements {source after : SourceSession} {program : List Statement}
    (named : source.Named) (success : source.statements program = (after, .ok ()))
    {statement : Statement} (listed : statement ∈ program) {name : String}
    (mention : name ∈ statement.meaning.mentioned) :
    ∃ label, after.names.lookup name = some label := by
  obtain ⟨front, back, rfl⟩ := List.append_of_mem listed
  rw [List.append_cons] at success
  obtain ⟨middle, carried, carriedBack⟩ := statements_append_eq_ok_iff.mp success
  have follows := TwoPass.follows_statements named carried
  obtain ⟨before, -, carriedOne⟩ := statements_append_eq_ok_iff.mp carried
  rw [statements] at carriedOne
  split at carriedOne
  · cases carriedOne
  · rename_i reached carriedThis
    cases carriedOne
    obtain ⟨label, known⟩ := known_of_statement carriedThis mention
    exact ⟨label, (TwoPass.follows_statements follows.named carriedBack).keeps known⟩

end SourceSession

/-! ## Definitions -/

namespace TwoPass

theorem lookup_note {pc : UInt32} {symbols table : Symbols} {statement : Statement}
    (noted : note pc symbols statement = some table) (name : String) :
    table.lookup name =
      if statement = .label name then some pc else symbols.lookup name := by
  cases statement with
  | label other =>
      rw [note] at noted
      split at noted
      · cases noted
      · cases noted
        rw [SourceSession.lookup_cons_eq]
        simp [eq_comm]
  | word values | instr mnemonic operands =>
      cases noted
      simp

/-- A name that is noted is not defined again. -/
theorem collect_of_noted {pc : UInt32} {symbols table : Symbols} {program : List Statement}
    (collected : collect pc symbols program = some table) {name : String} {address : UInt32}
    (known : symbols.lookup name = some address) :
    .label name ∉ program ∧ table.lookup name = some address := by
  induction program generalizing pc symbols with
  | nil =>
      cases collected
      exact ⟨List.not_mem_nil, known⟩
  | cons statement rest ih =>
      obtain ⟨middle, noted, collected⟩ := Option.bind_eq_some_iff.mp collected
      have different : statement ≠ .label name := by
        rintro rfl
        rw [note, known] at noted
        cases noted
      have still := lookup_note noted name
      rw [if_neg different, known] at still
      obtain ⟨absent, kept⟩ := ih collected still
      refine ⟨?_, kept⟩
      rw [List.mem_cons]
      rintro (same | later)
      · exact different same.symm
      · exact absent later

/-- A name that the first pass has noted is defined once, and its address is the one
that the pass had reached there. -/
theorem exists_definition_of_collect {pc : UInt32} {symbols table : Symbols}
    {program : List Statement} (collected : collect pc symbols program = some table)
    {name : String} (fresh : symbols.lookup name = none) {address : UInt32}
    (found : table.lookup name = some address) :
    ∃ front back, program = front ++ .label name :: back ∧ .label name ∉ front ∧
      .label name ∉ back ∧ address = addressAfterAll pc front := by
  induction program generalizing pc symbols with
  | nil =>
      cases collected
      rw [fresh] at found
      cases found
  | cons statement rest ih =>
      obtain ⟨middle, noted, collected⟩ := Option.bind_eq_some_iff.mp collected
      have now := lookup_note noted name
      by_cases defines : statement = .label name
      · rw [if_pos defines] at now
        obtain ⟨absent, kept⟩ := collect_of_noted collected now
        rw [found] at kept
        cases kept
        exact ⟨[], rest, by rw [defines]; rfl, List.not_mem_nil, absent, rfl⟩
      · rw [if_neg defines, fresh] at now
        obtain ⟨front, back, rfl, absentFront, absentBack, rfl⟩ := ih collected now
        refine ⟨statement :: front, back, rfl, ?_, absentBack, rfl⟩
        rw [List.mem_cons]
        rintro (same | later)
        · exact defines same.symm
        · exact absentFront later

end TwoPass

/-! ## Texts -/

namespace SourceSession

/-- The address that statements of a new session have reached counts their records. -/
theorem pc_of_statements {config : Config} {program : List Statement} {after : SourceSession}
    (success : (SourceSession.new config).statements program = (after, .ok ())) :
    after.session.pc = config.start + 4 * UInt32.ofNat after.session.log.size := by
  obtain ⟨requests, reached⟩ := (SourceSession.new config).exists_run_statements program
  have counted := (Session.new_counted config).run requests
  rw [Session.Counted, Session.run_config] at counted
  rw [success] at reached
  rw [reached]
  exact counted

/-- A name with an address was defined once, and the address counts the records of the
statements before the definition. -/
theorem exists_definition {config : Config} {program : List Statement} {after : SourceSession}
    (success : (SourceSession.new config).statements program = (after, .ok ()))
    {name : String} {address : UInt32} (defined : after.address? name = some address) :
    ∃ front back before, program = front ++ .label name :: back ∧ .label name ∉ front ∧
      .label name ∉ back ∧ (SourceSession.new config).statements front = (before, .ok ()) ∧
      before.session.Extends after.session ∧
      address = config.start + 4 * UInt32.ofNat before.session.log.size := by
  have named := new_named config
  have unmatched : TwoPass.Matches [] (SourceSession.new config) :=
    fun name => (address?_new config name).symm
  obtain ⟨table, collected, matched⟩ :=
    (TwoPass.follows_statements named success).collected [] unmatched
  rw [← matched name] at defined
  obtain ⟨front, back, rfl, absentFront, absentBack, rfl⟩ :=
    TwoPass.exists_definition_of_collect collected rfl defined
  obtain ⟨before, carried, carriedBack⟩ := statements_append_eq_ok_iff.mp success
  have grown := before.extends_statements (.label name :: back)
  rw [carriedBack] at grown
  refine ⟨front, back, before, rfl, absentFront, absentBack, carried, grown, ?_⟩
  rw [← pc_of_statements carried, (TwoPass.follows_statements named carried).pc]

end SourceSession

theorem TwoPass.parse_of_parseLines {text : String} {programs : List (List Statement)}
    (parsed : parseLines ((Text.lines text.toList).map String.ofList) = some programs) :
    parse text = some programs.flatten := by
  show (parseLines _).bind _ = _
  rw [parsed]
  rfl

/-- The statements of a text that assembles mention all of their operands that are
identifiers. -/
theorem mentioned_of_assemble {config : Config} {text : String} {image : Image}
    (assembled : assemble config text = .ok image) {program : List Statement}
    (parsed : TwoPass.parse text = some program) {mnemonic : String} {operands : List String}
    (listed : .instr mnemonic operands ∈ program) :
    (Statement.instr mnemonic operands).meaning.mentioned = Source.identifiers operands := by
  obtain ⟨final, fed, -⟩ := bind_eq_ok_iff.mp assembled
  obtain ⟨programs, read, carried⟩ := SourceSession.statements_of_feed fed
  cases parsed.symm.trans (TwoPass.parse_of_parseLines read)
  apply (Statement.mentioned_instr mnemonic operands).2
  exact SourceSession.not_refused_of_statements carried listed

/-- A text that assembles leaves no label without an address. Every name that one of its
statements mentions is defined by exactly one of them, and the address of the name is the
start of the image plus four bytes for each word of the statements before the definition.
These words are the first ones of the image. -/
theorem assemble_defines_labels {config : Config} {text : String} {image : Image}
    (assembled : assemble config text = .ok image) :
    ∃ program final,
      TwoPass.parse text = some program ∧
      (SourceSession.new config).feed ((Text.lines text.toList).map String.ofList) = .ok final ∧
      final.session.labels.unplaced = [] ∧
      ∀ statement ∈ program, ∀ name ∈ statement.meaning.mentioned,
        ∃ front back before words label,
          program = front ++ .label name :: back ∧ .label name ∉ front ∧ .label name ∉ back ∧
          (SourceSession.new config).statements front = (before, .ok ()) ∧
          wordsOf? final.session.labels before.session.log.toList = some words ∧
          words.map config.order.apply <+: image.words ∧
          final.names.lookup name = some label ∧
          final.session.labels.address label =
            .ok (config.start + 4 * UInt32.ofNat words.length) := by
  obtain ⟨final, fed, finished⟩ := bind_eq_ok_iff.mp assembled
  rw [← toOption_eq_some_iff, TwoPass.toOption_finish, toOption_eq_some_iff] at finished
  obtain ⟨programs, parsed, carried⟩ := SourceSession.statements_of_feed fed
  have follows := TwoPass.follows_statements (SourceSession.new_named config) carried
  have fresh : (Session.new config).Accountable := fun label inside => by cases inside
  have accountable : final.bare.session.Accountable :=
    SourceSession.accountable_statements fresh carried
  have placed {label : Label} (inside : label.index < final.session.labels.size) :
      ∃ address, final.session.labels.address label = .ok address :=
    (accountable label inside).placed_of_image finished
  refine ⟨programs.flatten, final, TwoPass.parse_of_parseLines parsed, fed,
    LabelTable.unplaced_eq_nil fun _ => placed, ?_⟩
  intro statement listed name mention
  obtain ⟨label, known⟩ := SourceSession.known_of_statements
    (SourceSession.new_named config) carried listed mention
  obtain ⟨address, found⟩ := placed (follows.named.inside known)
  have defined : final.bare.address? name = some address := by
    rw [SourceSession.address?, SourceSession.handle_of_lookup known]
    exact toOption_eq_some_iff.mpr found
  obtain ⟨front, back, before, split, absentFront, absentBack, carriedFront, grown, counts⟩ :=
    SourceSession.exists_definition carried defined
  obtain ⟨words, packed, length, beginning⟩ := Session.words_of_earlier grown finished
  rw [follows.config] at beginning
  rw [counts, ← length] at found
  exact ⟨front, back, before, words, label, split, absentFront, absentBack, carriedFront,
    packed, beginning, known, found⟩

/-- A text that goes around the end of the address space: the label at its end stands
after three words, at address zero. -/
theorem assemble_defines_labels_ahead :
    let config : Config := ⟨0xFFFFFFF4, .big⟩
    let text := "b end\nla $t0, end\nend: .word 7"
    let all : List UInt32 := [0x10000002, 0x3C080000, 0x35080000, 0x00000007]
    assemble config text = .ok ⟨0xFFFFFFF4, .big, all⟩ ∧
      ∃ final words label,
        (SourceSession.new config).feed ((Text.lines text.toList).map String.ofList) =
          .ok final ∧
        final.session.labels.unplaced = [] ∧
        words <+: all ∧
        final.names.lookup "end" = some label ∧
        final.session.labels.address label = .ok 0 ∧
        0xFFFFFFF4 + 4 * UInt32.ofNat words.length = 0 := by
  intro config text all
  have assembled : assemble config text = .ok ⟨0xFFFFFFF4, .big, all⟩ :=
    toOption_eq_some_iff.mp (by decide +kernel)
  obtain ⟨program, final, parsed, fed, unplaced, defined⟩ := assemble_defines_labels assembled
  have read : TwoPass.parse text = some [.instr "b" ["end"], .instr "la" ["$t0", "end"],
      .label "end", .word ["7"]] := by decide +kernel
  cases parsed.symm.trans read
  obtain ⟨front, back, before, words, label, -, -, -, -, -, beginning, known, placed⟩ :=
    defined (.label "end") (by simp) "end" List.mem_cons_self
  have reached : (((SourceSession.new config).feed
      ((Text.lines text.toList).map String.ofList)).toOption.bind
        fun final => final.address? "end") = some 0 := by decide +kernel
  rw [fed] at reached
  have atEnd : final.address? "end" = some 0 := reached
  rw [SourceSession.address?, SourceSession.handle_of_lookup known, placed] at atEnd
  have counts : 0xFFFFFFF4 + 4 * UInt32.ofNat words.length = 0 := Option.some.inj atEnd
  have unswapped : words.map config.order.apply = words := List.map_id' words
  rw [unswapped] at beginning
  rw [← counts]
  exact ⟨assembled, final, words, label, fed, unplaced, beginning, known, placed, rfl⟩

end Mips32
