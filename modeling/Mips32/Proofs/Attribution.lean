/-
# The line that is blamed

A record that cannot be packed is reported with a line of the text. Lines are
assembled one after another, and a caller may go on after a line that failed. Records
are charged to lines only when a line succeeds, and then all records that no line
accounts for, so what a failed line left behind is charged to a later line or to none.
Blame is right all the same. A line defines labels and then holds at most one
statement; if that statement fails, all it can have left behind are words of data, and
a word of data can always be packed. So a record that cannot be packed was laid down
by the line it is charged to.
-/
import Mathlib.Data.List.Induction
import Mips32.Proofs.Image
import Mips32.Proofs.SourceSession

namespace Mips32

/-! ## Words of data -/

/-- An instruction that is a word of data. -/
def Symbolic.IsData (instr : Symbolic) : Prop :=
  ∃ word, instr = .data word

theorem Record.word_of_isData {record : Record} (isData : record.instr.IsData)
    (labels : LabelTable) : ∃ word, record.word labels = .ok word := by
  obtain ⟨pc, instr⟩ := record
  obtain ⟨word, rfl⟩ := isData
  exact ⟨word, rfl⟩

theorem Session.isData_recordsFrom {pc : UInt32} {values : List UInt32} {record : Record}
    (listed : record ∈ Session.recordsFrom pc (values.map .data)) : record.instr.IsData := by
  have instrListed := List.mem_map_of_mem (f := Record.instr) listed
  rw [Session.map_instr_recordsFrom] at instrListed
  obtain ⟨word, -, same⟩ := List.mem_map.mp instrListed
  exact ⟨word, same.symm⟩

/-! ## Lines of text -/

theorem Statement.exists_label_of_definition {name : List Char} {statement : Statement}
    (read : Statement.definition name = .ok statement) : ∃ label, statement = .label label := by
  rw [Statement.definition] at read
  split at read
  · cases read
    exact ⟨_, rfl⟩
  · cases read

theorem Statement.exists_labels_of_mapM {pieces : List (List Char)}
    {definitions : List Statement} (read : pieces.mapM Statement.definition = .ok definitions) :
    ∃ names : List String, definitions = names.map .label := by
  induction pieces generalizing definitions with
  | nil =>
      cases read
      exact ⟨[], rfl⟩
  | cons piece rest ih =>
      rw [List.mapM_cons] at read
      obtain ⟨first, readFirst, read⟩ := bind_eq_ok_iff.mp read
      obtain ⟨others, readOthers, read⟩ := bind_eq_ok_iff.mp read
      cases read
      obtain ⟨label, rfl⟩ := Statement.exists_label_of_definition readFirst
      obtain ⟨names, rfl⟩ := ih readOthers
      exact ⟨label :: names, rfl⟩

theorem Statement.length_parseBody {text : List Char} {body : List Statement}
    (read : Statement.parseBody text = .ok body) : body.length ≤ 1 := by
  rw [Statement.parseBody] at read
  split at read
  · cases read
    exact Nat.zero_le _
  · dsimp only at read
    split at read
    · cases read
    · split at read
      · split at read
        · cases read
        · cases read
          exact Nat.le_refl _
      · cases read
        exact Nat.le_refl _

/-- A line defines labels and then holds at most one statement. -/
theorem Statement.parseLine_eq_ok {text : String} {statements : List Statement}
    (parsed : Statement.parseLine text = .ok statements) :
    ∃ (names : List String) (body : List Statement),
      statements = names.map .label ++ body ∧ body.length ≤ 1 := by
  rw [Statement.parseLine] at parsed
  obtain ⟨definitions, read, parsed⟩ := bind_eq_ok_iff.mp parsed
  obtain ⟨body, readBody, parsed⟩ := bind_eq_ok_iff.mp parsed
  cases parsed
  obtain ⟨names, rfl⟩ := Statement.exists_labels_of_mapM read
  exact ⟨names, body, rfl, Statement.length_parseBody readBody⟩

namespace SourceSession

/-! ## Statements -/

/-- A later state of a source session: records are added at the end of the log, and no
line is read or charged. -/
structure Appends (source : SourceSession) (added : List Record) (after : SourceSession) :
    Prop where
  log : after.session.log.toList = source.session.log.toList ++ added
  lines : after.lines = source.lines
  origin : after.origin = source.origin

theorem Appends.refl (source : SourceSession) : source.Appends [] source :=
  ⟨(List.append_nil _).symm, rfl, rfl⟩

theorem Appends.trans {first second third : SourceSession} {added more : List Record}
    (early : first.Appends added second) (late : second.Appends more third) :
    first.Appends (added ++ more) third where
  log := by rw [late.log, early.log, List.append_assoc]
  lines := late.lines.trans early.lines
  origin := late.origin.trans early.origin

theorem Appends.size_le {source after : SourceSession} {added : List Record}
    (appends : source.Appends added after) :
    source.session.log.size ≤ after.session.log.size :=
  (show source.session.log.toList <+: after.session.log.toList from
    ⟨added, appends.log.symm⟩).length_le

theorem appends_intern (source : SourceSession) (name : String) :
    source.Appends [] (source.intern name) := by
  unfold intern
  split
  · exact .refl source
  · exact ⟨(List.append_nil _).symm, rfl, rfl⟩

theorem appends_foldl_intern (source : SourceSession) (names : List String) :
    source.Appends [] (names.foldl intern source) := by
  induction names generalizing source with
  | nil => exact .refl source
  | cons name rest ih => exact (source.appends_intern name).trans (ih _)

theorem appends_emitAll (source : SourceSession) (instrs : List Symbolic) :
    source.Appends (Session.recordsFrom source.session.pc instrs)
      { source with session := source.session.emitAll instrs } :=
  ⟨Session.emitAll_log .., rfl, rfl⟩

/-- A statement adds records to the log. A definition adds none, and a statement that
fails adds words of data only. -/
theorem appends_carryOut (source : SourceSession) (meaning : Meaning) :
    ∃ added, source.Appends added (source.carryOut meaning).1 ∧
      (∀ name, meaning = .define name → added = []) ∧
      ∀ diagnostic, (source.carryOut meaning).2 = .error diagnostic →
        ∀ record ∈ added, record.instr.IsData := by
  cases meaning with
  | define name =>
      rw [carryOut]
      cases outcome : source.session.place (source.handle name) with
      | ok placed =>
          obtain ⟨labels, -, rfl⟩ := Session.place_eq_ok_iff.mp outcome
          exact ⟨[], ⟨(List.append_nil _).symm, rfl, rfl⟩, fun _ _ => rfl, by simp⟩
      | error error => exact ⟨[], .refl source, fun _ _ => rfl, by simp⟩
  | words values fault =>
      exact ⟨_, source.appends_emitAll _, by simp,
        fun _ _ record listed => Session.isData_recordsFrom listed⟩
  | pseudo pseudo => exact ⟨_, source.appends_emitAll _, by simp, by simp [carryOut]⟩
  | entry entry operands =>
      rw [carryOut]
      cases outcome : entry.instruction source.session.pc
          (operands.map (·.map source.handle)) with
      | ok instr => exact ⟨_, source.appends_emitAll [instr], by simp, by simp⟩
      | error error => exact ⟨[], .refl source, by simp, by simp⟩
  | refused mentioned cause => exact ⟨[], .refl source, by simp, by simp⟩

theorem appends_statement (source : SourceSession) (statement : Statement) :
    ∃ added, source.Appends added (source.statement statement).1 ∧
      (∀ name, statement = .label name → added = []) ∧
      ∀ diagnostic, (source.statement statement).2 = .error diagnostic →
        ∀ record ∈ added, record.instr.IsData := by
  obtain ⟨added, appends, defines, leaves⟩ := appends_carryOut
    (statement.meaning.mentioned.foldl intern source) statement.meaning
  refine ⟨added, (source.appends_foldl_intern _).trans appends, ?_, leaves⟩
  rintro name rfl
  exact defines name rfl

/-- Statements add records to the log. -/
theorem appends_statements (source : SourceSession) (statements : List Statement) :
    ∃ added, source.Appends added (source.statements statements).1 := by
  induction statements generalizing source with
  | nil => exact ⟨[], .refl source⟩
  | cons first rest ih =>
      obtain ⟨added, appends, -, -⟩ := source.appends_statement first
      rw [SourceSession.statements]
      split
      · rename_i carried
        rw [carried] at appends
        exact ⟨added, appends⟩
      · rename_i carried
        rw [carried] at appends
        obtain ⟨more, others⟩ := ih _
        exact ⟨added ++ more, appends.trans others⟩

/-- The statements of a line leave words of data behind if one of them fails: the
definitions before the last one lay nothing down. -/
theorem appends_statements_of_line (source : SourceSession) (names : List String)
    {body : List Statement} (single : body.length ≤ 1) :
    ∃ added, source.Appends added (source.statements (names.map .label ++ body)).1 ∧
      ∀ diagnostic, (source.statements (names.map .label ++ body)).2 = .error diagnostic →
        ∀ record ∈ added, record.instr.IsData := by
  induction names generalizing source with
  | nil =>
      cases body with
      | nil => exact ⟨[], .refl source, nofun⟩
      | cons only rest =>
          obtain rfl : rest = [] := List.eq_nil_of_length_eq_zero (by simpa using single)
          obtain ⟨added, appends, -, leaves⟩ := source.appends_statement only
          rw [List.map_nil, List.nil_append, SourceSession.statements]
          split
          · rename_i carried
            rw [carried] at appends leaves
            exact ⟨added, appends, leaves⟩
          · rename_i carried
            rw [carried] at appends
            exact ⟨added, appends, nofun⟩
  | cons name rest ih =>
      obtain ⟨added, appends, defines, -⟩ := source.appends_statement (.label name)
      obtain rfl := defines name rfl
      rw [List.map_cons, List.cons_append, SourceSession.statements]
      split
      · rename_i carried
        rw [carried] at appends
        exact ⟨[], appends, fun _ _ => nofun⟩
      · rename_i carried
        rw [carried] at appends
        obtain ⟨more, others, leaves⟩ := ih _
        exact ⟨more, appends.trans others, leaves⟩

/-! ## Lines -/

/-- The state in which the statements of a line are carried out: the line is among the
lines that were read. -/
def opened (source : SourceSession) (text : String) : SourceSession :=
  { source with lines := source.lines.push (Text.trimmed text) }

@[simp]
theorem opened_session (source : SourceSession) (text : String) :
    (source.opened text).session = source.session := rfl

@[simp]
theorem opened_origin (source : SourceSession) (text : String) :
    (source.opened text).origin = source.origin := rfl

@[simp]
theorem charge_session (source : SourceSession) (number : Nat) :
    (source.charge number).session = source.session := rfl

theorem size_origin_charge {source : SourceSession}
    (fewer : source.origin.size ≤ source.session.log.size) (number : Nat) :
    (source.charge number).origin.size = source.session.log.size := by
  rw [charge, Array.size_append, Array.size_replicate]
  omega

theorem mem_origin_charge {source : SourceSession} {number other : Nat}
    (listed : other ∈ (source.charge number).origin) :
    other ∈ source.origin ∨ other = number := by
  rcases Array.mem_append.mp listed with before | now
  · exact .inl before
  · exact .inr (Array.mem_replicate.mp now).2

/-- A record that is charged stays charged to the same line. -/
theorem origin_charge_of_charged {source : SourceSession} {index other : Nat}
    (charged : source.origin[index]? = some other) (number : Nat) :
    (source.charge number).origin[index]? = some other := by
  have inside := (Array.getElem?_eq_some_iff.mp charged).1
  rw [charge, Array.getElem?_append_left inside, charged]

theorem origin_charge_of_uncharged {source : SourceSession} {index : Nat}
    (uncharged : source.origin.size ≤ index) (inside : index < source.session.log.size)
    (number : Nat) : (source.charge number).origin[index]? = some number := by
  rw [charge, Array.getElem?_append_right uncharged, Array.getElem?_replicate]
  exact if_pos (by omega)

/-- Everything that a line can do: fail and leave words of data behind, or succeed, and
then all records that no line accounts for are charged to it. -/
theorem line_cases (source : SourceSession) (text : String) :
    (∃ added diagnostic, (source.opened text).Appends added (source.line text).1 ∧
        (source.line text).2 = .error diagnostic ∧ ∀ record ∈ added, record.instr.IsData) ∨
      ∃ added after, (source.opened text).Appends added after ∧
        source.line text = (after.charge (source.lines.size + 1), .ok ()) := by
  rw [SourceSession.line]
  dsimp only
  rw [← opened]
  split
  · exact .inl ⟨[], _, .refl _, rfl, nofun⟩
  · rename_i statements parsed
    obtain ⟨names, body, rfl, single⟩ := Statement.parseLine_eq_ok parsed
    obtain ⟨added, appends, leaves⟩ :=
      (source.opened text).appends_statements_of_line names single
    split
    · rename_i carried
      rw [carried] at appends leaves
      exact .inl ⟨added, _, appends, rfl, leaves _ rfl⟩
    · rename_i carried
      rw [carried] at appends
      exact .inr ⟨added, _, appends, by rw [Array.size_push]⟩

/-- The state after lines of text, whatever became of them. -/
def lineAll (source : SourceSession) (texts : List String) : SourceSession :=
  texts.foldl (fun source text => (source.line text).1) source

theorem lineAll_append (source : SourceSession) (texts more : List String) :
    source.lineAll (texts ++ more) = (source.lineAll texts).lineAll more :=
  List.foldl_append

/-- Lines add records at the end of the log. -/
theorem prefix_lineAll (source : SourceSession) (texts : List String) :
    source.session.log.toList <+: (source.lineAll texts).session.log.toList := by
  induction texts generalizing source with
  | nil => exact List.prefix_refl _
  | cons text rest ih =>
      have first : source.session.log.toList <+: (source.line text).1.session.log.toList := by
        obtain ⟨added, diagnostic, appends, -, -⟩ | ⟨added, after, appends, result⟩ :=
          source.line_cases text
        · exact ⟨added, appends.log.symm⟩
        · rw [result]
          exact ⟨added, appends.log.symm⟩
      exact first.trans (ih _)

/-! ## Who laid a record down -/

/-- The line with a number, counted from one, laid down the record at an index of the
log: the record is there after the line and was not there before it. -/
def LaidDownBy (config : Config) (texts : List String) (index : Nat) (record : Record)
    (number : Nat) : Prop :=
  ((SourceSession.new config).lineAll (texts.take (number - 1))).session.log.size ≤ index ∧
    ((SourceSession.new config).lineAll (texts.take number)).session.log[index]? = some record

theorem size_log_take_le (config : Config) (texts : List String) {early late : Nat}
    (before : early ≤ late) :
    ((SourceSession.new config).lineAll (texts.take early)).session.log.size ≤
      ((SourceSession.new config).lineAll (texts.take late)).session.log.size := by
  have front : (texts.take late).take early = texts.take early := by
    rw [List.take_take, Nat.min_eq_left before]
  rw [← List.take_append_drop early (texts.take late), front, lineAll_append]
  exact (prefix_lineAll ..).length_le

/-- A record is laid down by one line only. -/
theorem LaidDownBy.unique {config : Config} {texts : List String} {index : Nat}
    {record : Record} {first second : Nat}
    (byFirst : LaidDownBy config texts index record first)
    (bySecond : LaidDownBy config texts index record second) : first = second := by
  have notBefore {early late : Nat} (byEarly : LaidDownBy config texts index record early)
      (byLate : LaidDownBy config texts index record late) : ¬ early < late := by
    intro before
    obtain ⟨inside, -⟩ := Array.getElem?_eq_some_iff.mp byEarly.2
    have grown := size_log_take_le config texts (Nat.le_pred_of_lt before)
    have missing := byLate.1
    simp only [Nat.pred_eq_sub_one] at grown
    omega
  have := notBefore byFirst bySecond
  have := notBefore bySecond byFirst
  omega

/-- Later lines do not change who laid a record down. -/
theorem LaidDownBy.append {config : Config} {texts : List String} {index : Nat}
    {record : Record} {number : Nat} (laidDown : LaidDownBy config texts index record number)
    (read : number ≤ texts.length) (more : List String) :
    LaidDownBy config (texts ++ more) index record number := by
  rw [LaidDownBy, List.take_append_of_le_length (by omega), List.take_append_of_le_length read]
  exact laidDown

/-! ## Attribution -/

/-- What the lines that were read, the log and the attribution of a source session have
to do with each other. A record that is no word of data is charged to the line that
laid it down. -/
structure Attributed (config : Config) (texts : List String) (source : SourceSession) :
    Prop where
  lines : source.lines.toList = texts.map Text.trimmed
  size : source.origin.size ≤ source.session.log.size
  charged : ∀ number ∈ source.origin, 1 ≤ number ∧ number ≤ texts.length
  blamed : ∀ index record, source.session.log[index]? = some record →
    record.instr.IsData ∨ ∃ number, source.origin[index]? = some number ∧
      LaidDownBy config texts index record number

theorem Attributed.size_lines {config : Config} {texts : List String} {source : SourceSession}
    (attributed : Attributed config texts source) : source.lines.size = texts.length := by
  rw [← Array.length_toList, attributed.lines, List.length_map]

theorem new_attributed (config : Config) : Attributed config [] (SourceSession.new config) where
  lines := rfl
  size := Nat.le_refl _
  charged number listed := by cases Array.not_mem_empty number listed
  blamed index record logged := by cases logged

/-- What is known about the records that were there before a line. -/
theorem Attributed.blamed_before {config : Config} {texts : List String}
    {source : SourceSession} (attributed : Attributed config texts source) (text : String)
    {index : Nat} {record : Record} (logged : source.session.log[index]? = some record) :
    record.instr.IsData ∨ ∃ number, source.origin[index]? = some number ∧
      LaidDownBy config (texts ++ [text]) index record number := by
  rcases attributed.blamed index record logged with isData | ⟨number, charged, laidDown⟩
  · exact .inl isData
  · have read := (attributed.charged number (Array.mem_of_getElem? charged)).2
    exact .inr ⟨number, charged, laidDown.append read [text]⟩

theorem Attributed.lines_opened {config : Config} {texts : List String}
    {source : SourceSession} (attributed : Attributed config texts source) (text : String) :
    (source.opened text).lines.toList = (texts ++ [text]).map Text.trimmed := by
  rw [opened, Array.toList_push, attributed.lines, List.map_append]
  rfl

theorem Attributed.charged_before {config : Config} {texts : List String}
    {source : SourceSession} (attributed : Attributed config texts source) (text : String)
    {number : Nat} (listed : number ∈ source.origin) :
    1 ≤ number ∧ number ≤ (texts ++ [text]).length := by
  obtain ⟨first, last⟩ := attributed.charged number listed
  rw [List.length_append]
  exact ⟨first, Nat.le_add_right_of_le last⟩

/-- A line that fails charges nothing and leaves words of data behind. -/
theorem Attributed.fail {config : Config} {texts : List String} {source : SourceSession}
    (attributed : Attributed config texts source) {text : String} {after : SourceSession}
    {added : List Record} (appends : (source.opened text).Appends added after)
    (leaves : ∀ record ∈ added, record.instr.IsData) :
    Attributed config (texts ++ [text]) after where
  lines := by rw [appends.lines, attributed.lines_opened]
  size := by
    rw [appends.origin]
    exact Nat.le_trans attributed.size appends.size_le
  charged := by
    intro number listed
    rw [appends.origin] at listed
    exact attributed.charged_before text listed
  blamed := by
    intro index record logged
    rw [← Array.getElem?_toList, appends.log, List.getElem?_append] at logged
    split at logged
    · rw [appends.origin]
      exact attributed.blamed_before text (Array.getElem?_toList.symm.trans logged)
    · exact .inl (leaves record (List.mem_of_getElem? logged))

/-- A line that succeeds is charged with its own records, which it laid down, and with
words of data that failed lines left behind. -/
theorem Attributed.succeed {config : Config} {texts : List String}
    (attributed : Attributed config texts ((SourceSession.new config).lineAll texts))
    {text : String} {after : SourceSession} {added : List Record}
    (appends : (((SourceSession.new config).lineAll texts).opened text).Appends added after)
    (result : (SourceSession.new config).lineAll (texts ++ [text]) =
      after.charge (texts.length + 1)) :
    Attributed config (texts ++ [text]) (after.charge (texts.length + 1)) := by
  generalize same : (SourceSession.new config).lineAll texts = source at attributed appends
  have fewer : after.origin.size ≤ after.session.log.size := by
    rw [appends.origin]
    exact Nat.le_trans attributed.size appends.size_le
  constructor
  · show after.lines.toList = _
    rw [appends.lines, attributed.lines_opened]
  · rw [charge_session]
    exact Nat.le_of_eq (size_origin_charge fewer _)
  · intro number listed
    rcases mem_origin_charge listed with before | rfl
    · rw [appends.origin] at before
      exact attributed.charged_before text before
    · rw [List.length_append]
      exact ⟨Nat.succ_le_succ (Nat.zero_le _), Nat.le_refl _⟩
  · intro index record logged
    have inside := (Array.getElem?_eq_some_iff.mp logged).1
    by_cases before : index < source.session.log.size
    · have kept : source.session.log[index]? = some record := by
        rw [charge_session, ← Array.getElem?_toList, appends.log, opened_session,
          List.getElem?_append_left before] at logged
        exact Array.getElem?_toList.symm.trans logged
      rcases attributed.blamed_before text kept with isData | ⟨number, charged, laidDown⟩
      · exact .inl isData
      · rw [← opened_origin source text, ← appends.origin] at charged
        exact .inr ⟨number, origin_charge_of_charged charged _, laidDown⟩
    · have uncharged : after.origin.size ≤ index := by
        rw [appends.origin]
        exact Nat.le_trans attributed.size (Nat.le_of_not_lt before)
      refine .inr ⟨_, origin_charge_of_uncharged uncharged inside _, ?_, ?_⟩
      · rw [Nat.add_sub_cancel, List.take_left, same]
        exact Nat.le_of_not_lt before
      · rw [List.take_of_length_le (by simp), result]
        exact logged

theorem Attributed.line {config : Config} {texts : List String}
    (attributed : Attributed config texts ((SourceSession.new config).lineAll texts))
    (text : String) :
    Attributed config (texts ++ [text])
      ((SourceSession.new config).lineAll (texts ++ [text])) := by
  have result : (SourceSession.new config).lineAll (texts ++ [text]) =
      (((SourceSession.new config).lineAll texts).line text).1 := lineAll_append ..
  obtain ⟨added, diagnostic, appends, -, leaves⟩ | ⟨added, after, appends, succeeds⟩ :=
    ((SourceSession.new config).lineAll texts).line_cases text
  · rw [result]
    exact attributed.fail appends leaves
  · rw [succeeds, attributed.size_lines] at result
    rw [result]
    exact attributed.succeed appends result

/-- Attribution is right after any lines, whether they failed or not. -/
theorem attributed_lineAll (config : Config) (texts : List String) :
    Attributed config texts ((SourceSession.new config).lineAll texts) := by
  induction texts using List.reverseRecOn with
  | nil => exact new_attributed config
  | append_singleton past text ih => exact ih.line text

/-- Whatever lines were read, and whether they failed or not, no more records are
charged to lines than there are, also while a further line is carried out, and every
line that is charged was read. If there is no image, the first record without a word
is charged to the one line that laid it down, and the error names that line by its
number and its trimmed text. -/
theorem finish_blames_line (config : Config) (texts : List String) :
    let source := (SourceSession.new config).lineAll texts
    source.origin.size ≤ source.session.log.size ∧
      (∀ text statements, ((source.opened text).statements statements).1.origin.size ≤
        ((source.opened text).statements statements).1.session.log.size) ∧
      (∀ number ∈ source.origin, 1 ≤ number ∧ number ≤ source.lines.size) ∧
      ∀ diagnostic, source.finish = .error diagnostic →
        ∃ index record error number text,
          source.session.log[index]? = some record ∧
          record.word source.session.labels = .error error ∧
          (∀ earlier ∈ source.session.log.toList.take index,
            ∃ word, earlier.word source.session.labels = .ok word) ∧
          LaidDownBy config texts index record number ∧
          (∀ other, LaidDownBy config texts index record other → other = number) ∧
          texts[number - 1]? = some text ∧
          diagnostic = ⟨[.line number (Text.trimmed text)], source.describe error⟩ ∧
          diagnostic.messages.head? =
            some ("line " ++ Nat.repr number ++ ": " ++ Text.trimmed text) := by
  intro source
  have attributed : Attributed config texts source := attributed_lineAll config texts
  refine ⟨attributed.size, ?_, ?_, ?_⟩
  · intro text statements
    obtain ⟨added, appends⟩ := (source.opened text).appends_statements statements
    rw [appends.origin]
    exact Nat.le_trans attributed.size appends.size_le
  · rw [attributed.size_lines]
    exact attributed.charged
  · intro diagnostic failed
    rw [SourceSession.finish] at failed
    split at failed
    · cases failed
    · rename_i index error unfinished
      obtain ⟨record, logged, noWord, earlier⟩ := Session.image_eq_error_iff.mp unfinished
      rcases attributed.blamed index record logged with isData | ⟨number, charged, laidDown⟩
      · obtain ⟨word, packed⟩ := Record.word_of_isData isData source.session.labels
        rw [packed] at noWord
        cases noWord
      · obtain ⟨first, last⟩ := attributed.charged number (Array.mem_of_getElem? charged)
        have inside : number - 1 < texts.length := by omega
        have line : source.lines[number - 1]? = some (Text.trimmed texts[number - 1]) := by
          rw [← Array.getElem?_toList, attributed.lines, List.getElem?_map,
            List.getElem?_eq_getElem inside]
          rfl
        rw [charged] at failed
        dsimp only at failed
        rw [line] at failed
        cases failed
        exact ⟨index, record, error, number, texts[number - 1], logged, noWord, earlier,
          laidDown, fun other also => also.unique laidDown, List.getElem?_eq_getElem inside,
          rfl, rfl⟩

/-- A line of data fails at its second value and leaves a word behind, which is charged
to the next line. That line is to blame for a label that is nowhere defined. -/
theorem finish_blames_line_after_failure :
    let texts := [".word 1, x", " b away"]
    let source := (SourceSession.new {}).lineAll texts
    source.origin = #[2, 2] ∧
      source.finish = .error ⟨[.line 2 "b away"], .undefinedLabel "away"⟩ ∧
      ∃ index record error, LaidDownBy {} texts index record 2 ∧
        record.word source.session.labels = .error error := by
  intro texts source
  have failed : source.finish = .error ⟨[.line 2 "b away"], .undefinedLabel "away"⟩ :=
    cause?_eq_some_iff.mp (by decide +kernel)
  obtain ⟨index, record, error, number, text, -, noWord, -, laidDown, -, -, same, -⟩ :=
    (finish_blames_line {} texts).2.2.2 _ failed
  have places : [Place.line 2 "b away"] = [.line number (Text.trimmed text)] :=
    congrArg Diagnostic.places same
  obtain ⟨rfl, -⟩ : 2 = number ∧ "b away" = Text.trimmed text := by simpa using places
  exact ⟨by decide +kernel, failed, index, record, error, laidDown, noWord⟩

end SourceSession

end Mips32
