/-
# Names and addresses in a source session

A source session knows labels by name. Seen from outside it is a partial map from
names to addresses, `SourceSession.address?`, and this module says what each
operation does to that map. Mentioning a name for the first time changes nothing in
it, and a definition changes the entry of its own name only. Both rest on the
invariant `SourceSession.Named`: the handles of the names are labels of the table,
and no two names share one.
-/
import Mips32.Source.Session
import Mips32.Proofs.History

namespace Mips32

namespace Operand

/-- Replacing the label of an operand looks at that label only. -/
theorem map_congr {L M : Type} {f g : L → M} {operand : Operand L}
    (same : ∀ target ∈ operand.label?, f target = g target) : operand.map f = operand.map g := by
  cases operand with
  | label target => exact congrArg Operand.label (same target rfl)
  | _ => rfl

theorem map_map {L M N : Type} (f : L → M) (g : M → N) (operand : Operand L) :
    (operand.map f).map g = operand.map fun target => g (f target) := by
  cases operand <;> rfl

theorem map_of_label?_eq_none {L : Type} (f : L → L) {operand : Operand L}
    (noLabel : operand.label? = none) : operand.map f = operand := by
  cases operand with
  | label target => cases noLabel
  | _ => rfl

theorem label?_map {L M : Type} (f : L → M) (operand : Operand L) :
    (operand.map f).label? = operand.label?.map f := by
  cases operand <;> rfl

end Operand

namespace Pseudo

theorem map_congr {L M : Type} {f g : L → M} {pseudo : Pseudo L}
    (same : ∀ target ∈ pseudo.label?, f target = g target) : pseudo.map f = pseudo.map g := by
  cases pseudo <;> simp_all [map, label?]

theorem map_map {L M N : Type} (f : L → M) (g : M → N) (pseudo : Pseudo L) :
    (pseudo.map f).map g = pseudo.map fun target => g (f target) := by
  cases pseudo <;> rfl

theorem label?_map {L M : Type} (f : L → M) (pseudo : Pseudo L) :
    (pseudo.map f).label? = pseudo.label?.map f := by
  cases pseudo <;> rfl

end Pseudo

namespace Meaning

/-- The instructions that a statement appends at `pc` with the given handles for
its labels, unless it is refused. A definition appends none. -/
def instrs (handle : String → Label) (pc : UInt32) : Meaning → Option (List Symbolic)
  | .define _ => some []
  | .words values none => some (values.map .data)
  | .words _ (some _) => none
  | .pseudo instr => some (instr.map handle).expand
  | .entry item operands =>
    (item.instruction pc (operands.map (·.map handle))).toOption.map ([·])
  | .refused .. => none

/-- A statement needs the handles of the labels it mentions only. -/
theorem instrs_congr {f g : String → Label} {meaning : Meaning}
    (same : ∀ name ∈ meaning.mentioned, f name = g name) (pc : UInt32) :
    meaning.instrs f pc = meaning.instrs g pc := by
  cases meaning with
  | define name => rfl
  | words values fault => cases fault <;> rfl
  | pseudo instr =>
      have replaced : instr.map f = instr.map g :=
        Pseudo.map_congr fun target found => same target (Option.mem_toList.mpr found)
      rw [instrs, instrs, replaced]
  | entry item operands =>
      have replaced : operands.map (·.map f) = operands.map (·.map g) := by
        apply List.map_congr_left
        intro operand listed
        apply Operand.map_congr
        intro target found
        exact same target (List.mem_filterMap.mpr ⟨operand, listed, found⟩)
      rw [instrs, instrs, replaced]
  | refused mentioned cause => rfl

end Meaning

/-- An instruction is a pseudo-instruction, or one of the catalog, or refused. -/
theorem Statement.meaning_instr_cases (mnemonic : String) (operands : List String) :
    (∃ pseudo, (Statement.instr mnemonic operands).meaning = .pseudo pseudo) ∨
      (∃ entry read, (Statement.instr mnemonic operands).meaning = .entry entry read) ∨
      ∃ mentioned cause,
        (Statement.instr mnemonic operands).meaning = .refused mentioned cause := by
  rw [Statement.meaning]
  split
  · exact .inl ⟨_, rfl⟩
  · exact .inr (.inr ⟨_, _, rfl⟩)
  · split
    · exact .inr (.inr ⟨_, _, rfl⟩)
    · split
      · exact .inr (.inl ⟨_, _, rfl⟩)
      · exact .inr (.inr ⟨_, _, rfl⟩)

theorem Statement.eq_label_of_meaning {statement : Statement} {name : String}
    (defines : statement.meaning = .define name) : statement = .label name := by
  cases statement with
  | label other =>
      cases defines
      rfl
  | word values => cases defines
  | instr mnemonic operands =>
      obtain ⟨_, formed⟩ | ⟨_, _, formed⟩ | ⟨_, _, formed⟩ :=
        Statement.meaning_instr_cases mnemonic operands
      all_goals
        rw [formed] at defines
        cases defines

namespace SourceSession

variable {source : SourceSession}

/-! ## Names -/

/-- The address of a name, if it was defined. -/
def address? (source : SourceSession) (name : String) : Option UInt32 :=
  (source.session.labels.address (source.handle name)).toOption

/-- The names stand for different labels of the table. -/
structure Named (source : SourceSession) : Prop where
  inside : ∀ {name label}, source.names.lookup name = some label →
    label.index < source.session.labels.size
  apart : ∀ {first second label}, source.names.lookup first = some label →
    source.names.lookup second = some label → first = second

/-- Every name of `source` has the same label in `after`. -/
def Keeps (source after : SourceSession) : Prop :=
  ∀ {name label}, source.names.lookup name = some label → after.names.lookup name = some label

theorem handle_of_lookup {name : String} {label : Label}
    (known : source.names.lookup name = some label) : source.handle name = label := by
  rw [handle, known]
  rfl

/-- A name that is not mentioned yet has no address. -/
theorem address?_of_unmentioned {name : String} (unknown : source.names.lookup name = none) :
    source.address? name = none := by
  have missing : source.session.labels.slot? source.session.labels.next = none :=
    LabelTable.slot?_eq_none_iff.mpr (Nat.le_refl _)
  rw [address?, handle, unknown, LabelTable.toOption_address]
  exact congrArg (Option.bind · _) missing

theorem Named.withLines (named : source.Named) (lines : Array String) :
    ({ source with lines } : SourceSession).Named :=
  ⟨named.inside, named.apart⟩

theorem new_named (config : Config) : (SourceSession.new config).Named where
  inside known := by cases known
  apart known := by cases known

theorem address?_new (config : Config) (name : String) :
    (SourceSession.new config).address? name = none :=
  address?_of_unmentioned rfl

/-! ## Mentioning names -/

theorem lookup_cons_eq {α : Type} (name other : String) (value : α)
    (entries : List (String × α)) :
    ((name, value) :: entries).lookup other =
      if other = name then some value else entries.lookup other := by
  by_cases same : other = name
  · simp [same]
  · simp [same, List.lookup_cons, beq_false_of_ne same]

theorem intern_of_lookup {name : String} {label : Label}
    (known : source.names.lookup name = some label) : source.intern name = source := by
  rw [intern, known]

/-- A name that is mentioned gets its handle, and no other name changes. -/
theorem lookup_intern (source : SourceSession) (name other : String) :
    (source.intern name).names.lookup other =
      if other = name then some (source.handle name) else source.names.lookup other := by
  cases known : source.names.lookup name with
  | some label =>
      rw [intern_of_lookup known, handle_of_lookup known]
      by_cases same : other = name
      · rw [if_pos same, same, known]
      · rw [if_neg same]
  | none =>
      rw [intern, known, handle, known]
      exact lookup_cons_eq name other _ source.names

theorem toOption_address_intern (source : SourceSession) (name : String) (label : Label) :
    ((source.intern name).session.labels.address label).toOption =
      (source.session.labels.address label).toOption := by
  unfold intern
  split
  · rfl
  · exact LabelTable.toOption_address_create ..

theorem address?_intern (source : SourceSession) (name other : String) :
    (source.intern name).address? other = source.address? other := by
  by_cases unknown : (source.intern name).names.lookup other = none
  · rw [address?_of_unmentioned unknown]
    rw [lookup_intern] at unknown
    split at unknown
    · cases unknown
    · rw [address?_of_unmentioned unknown]
  · have sameHandle : (source.intern name).handle other = source.handle other := by
      obtain ⟨label, known⟩ := Option.ne_none_iff_exists'.mp unknown
      rw [handle_of_lookup known]
      rw [lookup_intern] at known
      split at known
      · rename_i same
        rw [same]
        exact (Option.some.inj known).symm
      · exact (handle_of_lookup known).symm
    rw [address?, sameHandle]
    exact toOption_address_intern ..

theorem keeps_intern (source : SourceSession) (name : String) :
    source.Keeps (source.intern name) := by
  intro other label known
  rw [lookup_intern]
  split
  · rename_i same
    rw [← same, handle_of_lookup known]
  · exact known

theorem size_labels_intern {name : String} (unknown : source.names.lookup name = none) :
    (source.intern name).session.labels.size = source.session.labels.size + 1 := by
  rw [intern, unknown]
  exact LabelTable.size_create ..

theorem Named.intern (named : source.Named) (name : String) : (source.intern name).Named := by
  cases known : source.names.lookup name with
  | some label =>
      rw [intern_of_lookup known]
      exact named
  | none =>
      have fresh : source.handle name = source.session.labels.next := by
        rw [handle, known]
        rfl
      -- The label of the new name is the next one, so it lies above all others.
      have old {other : String} {label : Label}
          (found : source.names.lookup other = some label) : label ≠ source.handle name := by
        intro same
        have below := named.inside found
        rw [same, fresh] at below
        exact Nat.lt_irrefl _ below
      constructor
      · intro other label found
        rw [size_labels_intern known]
        rw [lookup_intern] at found
        split at found
        · rw [← Option.some.inj found, fresh]
          exact Nat.lt_succ_self _
        · exact Nat.lt_succ_of_lt (named.inside found)
      · intro first second label foundFirst foundSecond
        rw [lookup_intern] at foundFirst foundSecond
        split at foundFirst <;> split at foundSecond
        · rename_i isFirst isSecond
          rw [isFirst, isSecond]
        · exact absurd (Option.some.inj foundFirst).symm (old foundSecond)
        · exact absurd (Option.some.inj foundSecond).symm (old foundFirst)
        · exact named.apart foundFirst foundSecond

/-- What mentioning names leaves as it was, and what it establishes. -/
structure Mentioned (source : SourceSession) (names : List String) (after : SourceSession) :
    Prop where
  keeps : source.Keeps after
  named : source.Named → after.Named
  address : ∀ name, after.address? name = source.address? name
  known : ∀ name ∈ names, ∃ label, after.names.lookup name = some label
  config : after.session.config = source.session.config
  pc : after.session.pc = source.session.pc
  log : after.session.log = source.session.log

theorem mentioned_intern (source : SourceSession) (name : String) :
    source.Mentioned [name] (source.intern name) where
  keeps := keeps_intern source name
  named named := named.intern name
  address other := address?_intern source name other
  known other listed := by
    rw [List.mem_singleton.mp listed]
    exact ⟨_, (lookup_intern source name name).trans (if_pos rfl)⟩
  config := by unfold intern; split <;> rfl
  pc := by unfold intern; split <;> rfl
  log := by unfold intern; split <;> rfl

theorem mentioned_foldl_intern (source : SourceSession) (names : List String) :
    source.Mentioned names (names.foldl intern source) := by
  induction names generalizing source with
  | nil => exact ⟨id, id, fun _ => rfl, by simp, rfl, rfl, rfl⟩
  | cons name rest ih =>
      have first := mentioned_intern source name
      have others := ih (source.intern name)
      constructor
      · exact fun known => others.keeps (first.keeps known)
      · exact fun named => others.named (first.named named)
      · exact fun other => (others.address other).trans (first.address other)
      · intro other listed
        rcases List.mem_cons.mp listed with rfl | listed
        · obtain ⟨label, known⟩ := first.known other (List.mem_singleton_self other)
          exact ⟨label, others.keeps known⟩
        · exact others.known other listed
      · exact others.config.trans first.config
      · exact others.pc.trans first.pc
      · exact others.log.trans first.log

/-! ## Definitions -/

theorem Named.place (named : source.Named) {label : Label} {placed : Session}
    (success : source.session.place label = .ok placed) :
    ({ source with session := placed } : SourceSession).Named := by
  obtain ⟨labels, bound, rfl⟩ := Session.place_eq_ok_iff.mp success
  constructor
  · intro name label known
    show label.index < labels.size
    rw [LabelTable.size_bind bound]
    exact named.inside known
  · exact named.apart

/-- Placing the label of a mentioned name is the definition of that name. -/
theorem address?_place (named : source.Named) {name : String} {label : Label}
    (known : source.names.lookup name = some label) {placed : Session}
    (success : source.session.place label = .ok placed) (other : String) :
    ({ source with session := placed } : SourceSession).address? other =
      if other = name then some source.session.pc else source.address? other := by
  obtain ⟨labels, bound, rfl⟩ := Session.place_eq_ok_iff.mp success
  have changed := LabelTable.toOption_address_bind bound
  cases found : source.names.lookup other with
  | none =>
      have different : other ≠ name := fun same => by
        rw [same, known] at found
        cases found
      rw [if_neg different, address?_of_unmentioned found]
      exact address?_of_unmentioned found
  | some target =>
      show (labels.address ((source.names.lookup other).getD _)).toOption = _
      rw [found, address?, handle_of_lookup found]
      refine (changed target).trans ?_
      by_cases same : other = name
      · subst same
        rw [known] at found
        rw [if_pos rfl, if_pos (Option.some.inj found).symm]
      · have apart : target ≠ label := fun equal =>
          same (named.apart found (equal ▸ known))
        rw [if_neg same, if_neg apart]

/-- A mentioned name can be defined exactly when it has no address. -/
theorem exists_place_iff (named : source.Named) {name : String} {label : Label}
    (known : source.names.lookup name = some label) :
    (∃ placed, source.session.place label = .ok placed) ↔ source.address? name = none := by
  rw [address?, handle_of_lookup known]
  constructor
  · rintro ⟨placed, success⟩
    obtain ⟨labels, bound, rfl⟩ := Session.place_eq_ok_iff.mp success
    exact LabelTable.toOption_address_of_bind bound
  · intro undefined
    obtain ⟨labels, bound⟩ :=
      LabelTable.exists_bind_of_unplaced source.session.pc (named.inside known) undefined
    exact ⟨_, Session.place_eq_ok_iff.mpr ⟨labels, bound, rfl⟩⟩

/-! ## Statements -/

/-- Everything that carrying out a statement can do: define a label, be refused
because the label has an address, append instructions, or be refused before its
instructions are formed. -/
theorem carryOut_cases (source : SourceSession) (meaning : Meaning) :
    (∃ name placed, meaning = .define name ∧
        source.session.place (source.handle name) = .ok placed ∧
        source.carryOut meaning = ({ source with session := placed }, .ok ())) ∨
      (∃ name diagnostic, meaning = .define name ∧
        (¬ ∃ placed, source.session.place (source.handle name) = .ok placed) ∧
        source.carryOut meaning = (source, .error diagnostic)) ∨
      (∃ instrs, (∀ name, meaning ≠ .define name) ∧
        meaning.instrs source.handle source.session.pc = some instrs ∧
        source.carryOut meaning =
          ({ source with session := source.session.emitAll instrs }, .ok ())) ∨
      ∃ after diagnostic, meaning.instrs source.handle source.session.pc = none ∧
        source.carryOut meaning = (after, .error diagnostic) := by
  cases meaning with
  | define name =>
      cases outcome : source.session.place (source.handle name) with
      | ok placed => exact .inl ⟨name, placed, rfl, outcome, by rw [carryOut, outcome]⟩
      | error error =>
          refine .inr (.inl ⟨name, _, rfl, ?_, by rw [carryOut, outcome]⟩)
          rintro ⟨placed, success⟩
          rw [outcome] at success
          cases success
  | words values fault =>
      cases fault with
      | none => exact .inr (.inr (.inl ⟨_, nofun, rfl, rfl⟩))
      | some cause => exact .inr (.inr (.inr ⟨_, _, rfl, rfl⟩))
  | pseudo pseudo => exact .inr (.inr (.inl ⟨_, nofun, rfl, rfl⟩))
  | entry entry operands =>
      cases outcome : entry.instruction source.session.pc
          (operands.map (·.map source.handle)) with
      | ok instr =>
          refine .inr (.inr (.inl ⟨[instr], nofun, ?_, by rw [carryOut, outcome]; rfl⟩))
          rw [Meaning.instrs, outcome]
          rfl
      | error error =>
          refine .inr (.inr (.inr ⟨_, _, ?_, by rw [carryOut, outcome]⟩))
          rw [Meaning.instrs, outcome]
          rfl
  | refused mentioned cause => exact .inr (.inr (.inr ⟨_, _, rfl, rfl⟩))

theorem Named.emitAll (named : source.Named) (instrs : List Symbolic) :
    ({ source with session := source.session.emitAll instrs } : SourceSession).Named := by
  constructor
  · intro name label known
    show label.index < (source.session.emitAll instrs).labels.size
    rw [Session.emitAll_labels]
    exact named.inside known
  · exact named.apart

theorem address?_emitAll (source : SourceSession) (instrs : List Symbolic) (name : String) :
    ({ source with session := source.session.emitAll instrs } : SourceSession).address? name =
      source.address? name := by
  simp only [address?, handle, Session.emitAll_labels]

end SourceSession

end Mips32
