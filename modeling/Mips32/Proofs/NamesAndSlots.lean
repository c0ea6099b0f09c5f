/-
# Names and slots

A source session keeps its names twice: in the map from names to labels, and in the slots
of the label table. A name enters both when a statement first mentions it, and many
statements mention names, some of them before they are refused. Whatever lines and
statements a session was given, and whatever became of them, each name of the map belongs
to one slot and each slot to one name, a new name takes the next slot, and a name never
changes its slot.

Records take their labels from the map only. So a record never waits for a label that the
table does not have, and a label that is missing in the end can be told by the identifier
that stands for it in the text.
-/
import Mips32.Proofs.Renaming
import Mips32.Proofs.SourceRun
import Mips32.Proofs.StableImage
import Mips32.Proofs.Unambiguous

namespace Mips32

/-! ## Where labels come from -/

/-- The expansion of a pseudo-instruction waits for no other label than the one it refers
to. -/
theorem Pseudo.label?_of_expand {pseudo : Pseudo Label} {instr : Symbolic} {label : Label}
    (listed : instr ∈ pseudo.expand) (waits : instr.label? = some label) :
    pseudo.label? = some label := by
  have literal (rd : Reg) (value : Int) : (loadImmediate rd value).label? = none := by
    unfold loadImmediate
    split <;> rfl
  cases pseudo with
  | b target | neg rd rt | not rd rs | move rd rs | sgt rd rs rt =>
      obtain rfl := List.mem_singleton.mp listed
      exact waits
  | la rd value | laLabel rd target =>
      simp only [expand, List.mem_cons, List.not_mem_nil, or_false] at listed
      rcases listed with rfl | rfl
      · exact waits
      · exact waits
  | blt rs rt target | bge rs rt target | bgt rs rt target | ble rs rt target =>
      simp only [expand, List.mem_cons, List.not_mem_nil, or_false] at listed
      rcases listed with rfl | rfl
      · cases waits
      · exact waits
  | li rd value =>
      rw [List.mem_singleton.mp listed, literal] at waits
      cases waits
  | sge rd rs rt =>
      simp only [expand, List.mem_cons, List.not_mem_nil, or_false] at listed
      rcases listed with rfl | rfl | rfl
      · cases waits
      · rw [literal] at waits
        cases waits
      · cases waits

/-- The instruction of an entry waits for no label that is not among its operands. -/
theorem Entry.mem_of_waits {entry : Entry} {pc : UInt32} {operands : List (Operand Label)}
    {instr : Symbolic} (formed : entry.instruction pc operands = .ok instr) {label : Label}
    (waits : instr.label? = some label) : .label label ∈ operands := by
  cases Entry.forms_of_instruction formed with
  | branch shaped rs rt target | zeroBranch shaped rs target | floatBranch shaped target
  | jumpToLabel shaped target =>
      cases waits
      simp
  | _ => cases waits

namespace SourceSession

variable {source after : SourceSession}

/-- What carrying out a statement does to the session: it places the label that the
statement defines, or it appends instructions, possibly none. These wait for labels that
the statement mentions. -/
theorem carryOut_effect (source : SourceSession) (meaning : Meaning) :
    (∃ name placed, meaning = .define name ∧
        source.session.place (source.handle name) = .ok placed ∧
        (source.carryOut meaning).1 = { source with session := placed }) ∨
      ∃ instrs, (source.carryOut meaning).1 =
          { source with session := source.session.emitAll instrs } ∧
        ∀ instr ∈ instrs, ∀ label, instr.label? = some label →
          (∀ name, meaning ≠ .define name) ∧
            ∃ name ∈ meaning.mentioned, source.handle name = label := by
  cases meaning with
  | define name =>
      rw [carryOut]
      cases outcome : source.session.place (source.handle name) with
      | ok placed => exact .inl ⟨name, placed, rfl, outcome, rfl⟩
      | error error => exact .inr ⟨[], rfl, List.forall_mem_nil _⟩
  | words values fault =>
      refine .inr ⟨_, rfl, ?_⟩
      intro instr listed label waits
      obtain ⟨word, -, rfl⟩ := List.mem_map.mp listed
      cases waits
  | pseudo pseudo =>
      refine .inr ⟨_, rfl, ?_⟩
      intro instr listed label waits
      have refers := Pseudo.label?_of_expand listed waits
      rw [Pseudo.label?_map] at refers
      obtain ⟨name, mentioned, same⟩ := Option.map_eq_some_iff.mp refers
      exact ⟨by simp, name, Option.mem_toList.mpr mentioned, same⟩
  | entry entry operands =>
      rw [carryOut]
      cases outcome : entry.instruction source.session.pc
          (operands.map (·.map source.handle)) with
      | error error => exact .inr ⟨[], rfl, List.forall_mem_nil _⟩
      | ok instr =>
          refine .inr ⟨[instr], rfl, ?_⟩
          intro only listed label waits
          cases List.mem_singleton.mp listed
          obtain ⟨operand, member, refers⟩ :=
            List.mem_map.mp (Entry.mem_of_waits outcome waits)
          obtain ⟨name, rfl, same⟩ := Operand.map_eq_label_iff.mp refers
          exact ⟨by simp, name, List.mem_filterMap.mpr ⟨_, member, rfl⟩, same⟩
  | refused mentioned cause => exact .inr ⟨[], rfl, List.forall_mem_nil _⟩

/-! ## Calls -/

/-- What a caller may do with a source session before it is finished. -/
inductive Call
  /-- Assemble a line of text. -/
  | line (text : String)
  /-- Carry out a statement. -/
  | statement (statement : Statement)

/-- The session after a call, and whether the call failed. -/
def perform (source : SourceSession) : Call → SourceSession × Except Diagnostic Unit
  | .line text => source.line text
  | .statement statement => source.statement statement

/-- The session after calls, whatever became of them. -/
def run (source : SourceSession) (calls : List Call) : SourceSession :=
  calls.foldl (fun source call => (source.perform call).1) source

/-- A line does what its statements do, but for the account of lines. -/
theorem exists_statements_of_line (source : SourceSession) (text : String) :
    ∃ program, (source.line text).1.bare = (source.statements program).1.bare := by
  rw [SourceSession.line]
  dsimp only
  split
  · exact ⟨[], rfl⟩
  · rename_i program parsed
    have unmarked := congrArg Prod.fst (statements_bare source program)
    have marked := congrArg Prod.fst (statements_bare
      { source with lines := source.lines.push (Text.trimmed text) } program)
    refine ⟨program, ?_⟩
    split
    · rename_i carried
      rw [carried] at marked
      exact marked.symm.trans unmarked
    · rename_i carried
      rw [carried] at marked
      exact marked.symm.trans unmarked

/-- What every statement preserves, and what does not depend on the account of lines, holds
after any calls. -/
theorem run_preserves {motive : SourceSession → Prop}
    (blind : ∀ {source : SourceSession}, motive source ↔ motive source.bare)
    (step : ∀ {source : SourceSession} (statement : Statement), motive source →
      motive (source.statement statement).1)
    (start : motive source) (calls : List Call) : motive (source.run calls) := by
  have program {source : SourceSession} (start : motive source) (program : List Statement) :
      motive (source.statements program).1 := by
    induction program generalizing source with
    | nil => exact start
    | cons first rest ih =>
        have stepped := step first start
        rw [statements]
        split
        · rename_i carried
          rw [carried] at stepped
          exact stepped
        · rename_i carried
          rw [carried] at stepped
          exact ih stepped
  induction calls generalizing source with
  | nil => exact start
  | cons call rest ih =>
      apply ih
      cases call with
      | line text =>
          obtain ⟨statements, same⟩ := source.exists_statements_of_line text
          show motive (source.line text).1
          rw [blind, same, ← blind]
          exact program start statements
      | statement statement => exact step statement start

/-! ## New names -/

/-- A later state of a source session: the names that were added, in order, have taken the
slots that came next, and all other names are as they were. -/
structure Adds (source : SourceSession) (fresh : List String) (after : SourceSession) :
    Prop where
  size : after.session.labels.size = source.session.labels.size + fresh.length
  kept : ∀ {name}, name ∉ fresh → after.names.lookup name = source.names.lookup name
  given : ∀ {position name}, fresh[position]? = some name →
    source.names.lookup name = none ∧
      after.names.lookup name = some ⟨source.session.labels.size + position⟩

theorem Adds.refl (source : SourceSession) : source.Adds [] source :=
  ⟨rfl, fun _ => rfl, fun found => by cases found⟩

theorem Adds.unknown {fresh : List String} (adds : source.Adds fresh after) {name : String}
    (listed : name ∈ fresh) : source.names.lookup name = none := by
  obtain ⟨position, found⟩ := List.mem_iff_getElem?.mp listed
  exact (adds.given found).1

theorem Adds.known {fresh : List String} (adds : source.Adds fresh after) {name : String}
    (listed : name ∈ fresh) : ∃ label, after.names.lookup name = some label := by
  obtain ⟨position, found⟩ := List.mem_iff_getElem?.mp listed
  exact ⟨_, (adds.given found).2⟩

theorem Adds.trans {first second third : SourceSession} {early late : List String}
    (before : first.Adds early second) (behind : second.Adds late third) :
    first.Adds (early ++ late) third where
  size := by
    rw [behind.size, before.size, List.length_append]
    omega
  kept absent := by
    rw [List.mem_append, not_or] at absent
    rw [behind.kept absent.2, before.kept absent.1]
  given {position name} found := by
    -- A name that one part adds is unknown before that part and known after it.
    have apart : ¬ (name ∈ early ∧ name ∈ late) := by
      rintro ⟨listed, again⟩
      obtain ⟨label, known⟩ := before.known listed
      rw [behind.unknown again] at known
      cases known
    rw [List.getElem?_append] at found
    split at found
    · have listed := List.mem_of_getElem? found
      have absent : name ∉ late := fun again => apart ⟨listed, again⟩
      rw [behind.kept absent]
      exact before.given found
    · have again := List.mem_of_getElem? found
      have absent : name ∉ early := fun listed => apart ⟨listed, again⟩
      obtain ⟨unknown, known⟩ := behind.given found
      refine ⟨(before.kept absent).symm.trans unknown, ?_⟩
      rw [known, before.size]
      congr 2
      omega

/-- The map of names and the label table tell the same: a name has a label exactly if the
slot of the label has the name, every slot has a name, and there are no more entries than
slots. Labels of records have identifiers for names. -/
structure Booked (source : SourceSession) : Prop where
  named : ∀ {name label}, source.names.lookup name = some label ↔
    source.session.labels.name? label = some name
  covered : ∀ {label : Label}, label.index < source.session.labels.size →
    ∃ name, source.names.lookup name = some label
  size : source.names.length = source.session.labels.size
  referenced : ∀ {record}, record ∈ source.session.log.toList →
    ∀ {label}, record.instr.label? = some label →
      ∃ name, isIdentifier name.toList = true ∧ source.names.lookup name = some label

theorem new_booked (config : Config) : (SourceSession.new config).Booked where
  named := by
    intro name label
    constructor
    · intro known
      cases known
    · intro named
      cases named
  covered inside := by cases inside
  size := rfl
  referenced listed := by cases listed

theorem booked_bare : source.Booked ↔ source.bare.Booked :=
  ⟨fun booked => ⟨booked.named, booked.covered, booked.size, booked.referenced⟩,
    fun booked => ⟨booked.named, booked.covered, booked.size, booked.referenced⟩⟩

theorem Booked.index_lt (booked : source.Booked) {name : String} {label : Label}
    (known : source.names.lookup name = some label) :
    label.index < source.session.labels.size :=
  LabelTable.index_lt_of_name? (booked.named.mp known)

/-- A name that is mentioned for the first time is entered in the map and in the table. -/
theorem Booked.intern (booked : source.Booked) (name : String) :
    (source.intern name).Booked := by
  cases unknown : source.names.lookup name with
  | some label =>
      rw [intern_of_lookup unknown]
      exact booked
  | none =>
      have result : source.intern name =
          { source with
            session := source.session.create (some name)
            names := (name, source.session.labels.next) :: source.names } := by
        rw [SourceSession.intern, unknown]
      have beyond {other : String} :
          source.names.lookup other ≠ some source.session.labels.next :=
        fun known => Nat.lt_irrefl _ (booked.index_lt known)
      have kept {other : String} {label : Label}
          (known : source.names.lookup other = some label) :
          (source.intern name).names.lookup other = some label :=
        keeps_intern source name known
      constructor
      · intro other label
        have slots : (source.intern name).session.labels.name? label =
            if label = source.session.labels.next then some name
            else source.session.labels.name? label := by
          rw [result]
          exact LabelTable.name?_create ..
        rw [slots, lookup_intern, handle, unknown, Option.getD_none]
        by_cases last : label = source.session.labels.next
        · subst last
          rw [if_pos rfl]
          by_cases same : other = name
          · rw [if_pos same, same]
            exact ⟨fun _ => rfl, fun _ => rfl⟩
          · rw [if_neg same]
            refine ⟨fun known => absurd known beyond, fun equal => ?_⟩
            exact absurd (Option.some.inj equal).symm same
        · rw [if_neg last, ← booked.named]
          by_cases same : other = name
          · rw [if_pos same, same, unknown]
            refine ⟨fun equal => absurd (Option.some.inj equal).symm last, ?_⟩
            intro known
            cases known
          · rw [if_neg same]
      · intro label inside
        rw [size_labels_intern unknown] at inside
        rcases Nat.lt_or_eq_of_le (Nat.le_of_lt_succ inside) with old | last
        · obtain ⟨other, known⟩ := booked.covered old
          exact ⟨other, kept known⟩
        · refine ⟨name, ?_⟩
          rw [lookup_intern, if_pos rfl, handle, unknown]
          exact congrArg some (LabelTable.ext_index last.symm)
      · rw [size_labels_intern unknown, result, ← booked.size]
        rfl
      · intro record listed label waits
        rw [result] at listed
        obtain ⟨other, identifier, known⟩ := booked.referenced listed waits
        exact ⟨other, identifier, kept known⟩

theorem Booked.foldl_intern (booked : source.Booked) (names : List String) :
    (names.foldl SourceSession.intern source).Booked := by
  induction names generalizing source with
  | nil => exact booked
  | cons name rest ih => exact ih (booked.intern name)

theorem Booked.place (booked : source.Booked) {label : Label} {placed : Session}
    (success : source.session.place label = .ok placed) :
    ({ source with session := placed } : SourceSession).Booked := by
  obtain ⟨labels, bound, rfl⟩ := Session.place_eq_ok_iff.mp success
  constructor
  · intro name other
    show _ ↔ labels.name? other = some name
    rw [LabelTable.name?_bind bound]
    exact booked.named
  · intro other inside
    rw [show _ = _ from LabelTable.size_bind bound] at inside
    exact booked.covered inside
  · exact booked.size.trans (LabelTable.size_bind bound).symm
  · exact booked.referenced

theorem Booked.emitAll (booked : source.Booked) {instrs : List Symbolic}
    (referenced : ∀ instr ∈ instrs, ∀ label, instr.label? = some label →
      ∃ name, isIdentifier name.toList = true ∧ source.names.lookup name = some label) :
    ({ source with session := source.session.emitAll instrs } : SourceSession).Booked := by
  have sameLabels := Session.emitAll_labels source.session instrs
  constructor
  · intro name label
    show _ ↔ (source.session.emitAll instrs).labels.name? label = some name
    rw [sameLabels]
    exact booked.named
  · intro label inside
    rw [sameLabels] at inside
    exact booked.covered inside
  · exact booked.size.trans (congrArg LabelTable.size sameLabels).symm
  · intro record listed label waits
    rw [Session.emitAll_log] at listed
    rcases List.mem_append.mp listed with old | new
    · exact booked.referenced old waits
    · have appended := List.mem_map_of_mem (f := Record.instr) new
      rw [Session.map_instr_recordsFrom] at appended
      exact referenced _ appended label waits

theorem Booked.statement (booked : source.Booked) (statement : Statement) :
    (source.statement statement).1.Booked := by
  have interned := booked.foldl_intern statement.meaning.mentioned
  have known := (mentioned_foldl_intern source statement.meaning.mentioned).known
  rw [SourceSession.statement]
  obtain ⟨name, placed, -, success, result⟩ | ⟨instrs, result, waiting⟩ :=
    carryOut_effect (statement.meaning.mentioned.foldl SourceSession.intern source)
      statement.meaning
  · rw [result]
    exact interned.place success
  · rw [result]
    apply interned.emitAll
    intro instr listed label waits
    obtain ⟨other, name, mentioned, rfl⟩ := waiting instr listed label waits
    obtain ⟨label, found⟩ := known name mentioned
    refine ⟨name, Statement.isIdentifier_of_mentioned other mentioned, ?_⟩
    rw [handle_of_lookup found]
    exact found

theorem Booked.run (booked : source.Booked) (calls : List Call) : (source.run calls).Booked :=
  run_preserves (motive := Booked) booked_bare (fun statement kept => kept.statement statement)
    booked calls

/-! ## Labels that are missing in the end -/

end SourceSession

end Mips32
