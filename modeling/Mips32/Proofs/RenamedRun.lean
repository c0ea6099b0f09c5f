/-
# Runs of renamed programs

A session that carries out a renamed program goes through the same states as with the
program itself, except that its labels have new names: renaming commutes with looking up
and creating labels, with placing them and with appending instructions. Nothing that ends
up in the image looks at a name, so the log, the addresses and the image agree, and a
statement is refused in the one run exactly when it is refused in the other.
-/
import Mips32.Proofs.Renaming
import Mips32.Proofs.StableImage
import Mips32.Proofs.TwoPass.Agreement

namespace Mips32

/-! ## Labels -/

/-- The slot of a label with a new name. -/
def Slot.rename (rule : Renaming) (slot : Slot) : Slot :=
  ⟨slot.name.map rule.text, slot.address⟩

namespace LabelTable

/-- The table of labels with new names. -/
def rename (rule : Renaming) (table : LabelTable) : LabelTable :=
  ⟨table.slots.map (Slot.rename rule)⟩

variable (rule : Renaming) (table : LabelTable)

theorem slot?_rename (label : Label) :
    (table.rename rule).slot? label = (table.slot? label).map (Slot.rename rule) := by
  simp [slot?, rename]

theorem next_rename : (table.rename rule).next = table.next := by
  simp [next, size, rename]

theorem address_rename (label : Label) :
    (table.rename rule).address label = table.address label := by
  rw [address, address, slot?_rename]
  cases table.slot? label with
  | none => rfl
  | some slot =>
      obtain ⟨name, address⟩ := slot
      cases address <;> rfl

theorem create_rename (name : String) :
    (table.rename rule).create (some (rule.text name)) =
      (table.create (some name)).rename rule := by
  simp [create, rename, Slot.rename]

theorem bind_rename (label : Label) (address : Int) :
    (table.rename rule).bind label address = (table.bind label address).map (rename rule) := by
  rw [bind, bind, slot?_rename]
  split
  · cases table.slot? label with
    | none => rfl
    | some slot =>
        obtain ⟨name, earlier⟩ := slot
        cases earlier with
        | none =>
            show Except.ok (⟨_⟩ : LabelTable) = Except.ok ⟨_⟩
            rw [Array.map_setIfInBounds]
            rfl
        | some earlier => rfl
  · rfl

end LabelTable

/-! ## Sessions -/

namespace Session

/-- The session whose labels have new names. -/
def rename (rule : Renaming) (session : Session) : Session :=
  { session with labels := session.labels.rename rule }

variable (rule : Renaming) (session : Session)

theorem emitAll_rename (instrs : List Symbolic) :
    (session.rename rule).emitAll instrs = (session.emitAll instrs).rename rule := by
  induction instrs generalizing session with
  | nil => rfl
  | cons instr rest ih => exact ih (session.emit instr)

theorem create_rename (name : String) :
    (session.rename rule).create (some (rule.text name)) =
      (session.create (some name)).rename rule := by
  show ({ session with labels := (session.labels.rename rule).create _ } : Session) = _
  rw [LabelTable.create_rename]
  rfl

theorem place_rename (label : Label) :
    (session.rename rule).place label = (session.place label).map (rename rule) := by
  rw [place, place]
  show (session.labels.rename rule).bind label session.pc.toNat >>= _ = _
  rw [LabelTable.bind_rename]
  cases session.labels.bind label session.pc.toNat <;> rfl

end Session

theorem packRecords_rename (rule : Renaming) (order : ByteOrder) (labels : LabelTable)
    (words : Array UInt32) (records : List Record) :
    packRecords order (labels.rename rule) words records =
      packRecords order labels words records := by
  induction records generalizing words with
  | nil => rfl
  | cons record rest ih =>
      have sameWord : record.word (labels.rename rule) = record.word labels := by
        rw [Record.word, Record.word,
          Symbolic.resolve_congr fun label _ => labels.address_rename rule label]
      rw [packRecords, packRecords, sameWord]
      cases record.word labels with
      | error error => rfl
      | ok word => exact ih _

/-- The image does not depend on the names of the labels. -/
theorem Session.image_rename (rule : Renaming) (session : Session) :
    (session.rename rule).image = session.image := by
  show packRecords _ (session.labels.rename rule) _ _ >>= _ = _
  rw [packRecords_rename]
  rfl

/-! ## Source sessions -/

namespace SourceSession

/-- The source session whose names are new. -/
def rename (rule : Renaming) (source : SourceSession) : SourceSession :=
  { source with
    session := source.session.rename rule
    names := source.names.map fun entry => (rule.text entry.1, entry.2) }

variable (rule : Renaming) (source : SourceSession)

theorem lookup_map_text (names : List (String × Label)) (name : String) :
    (names.map fun entry => (rule.text entry.1, entry.2)).lookup (rule.text name) =
      names.lookup name := by
  induction names with
  | nil => rfl
  | cons entry rest ih =>
      obtain ⟨other, label⟩ := entry
      rw [List.map_cons, lookup_cons_eq, lookup_cons_eq, ih]
      by_cases same : name = other
      · rw [if_pos same, if_pos (congrArg rule.text same)]
      · rw [if_neg same, if_neg (fun alike => same (Renaming.text_injective alike))]

theorem lookup_rename (name : String) :
    (source.rename rule).names.lookup (rule.text name) = source.names.lookup name :=
  lookup_map_text rule source.names name

theorem handle_rename (name : String) :
    (source.rename rule).handle (rule.text name) = source.handle name := by
  rw [handle, handle, lookup_rename]
  exact congrArg _ (source.session.labels.next_rename rule)

theorem intern_rename (name : String) :
    (source.rename rule).intern (rule.text name) = (source.intern name).rename rule := by
  cases known : source.names.lookup name with
  | some label =>
      rw [intern_of_lookup known, intern_of_lookup ((lookup_rename ..).trans known)]
  | none =>
      have sameSession : (source.rename rule).session.create (some (rule.text name)) =
          (source.session.create (some name)).rename rule :=
        source.session.create_rename rule name
      have sameNext : (source.rename rule).session.labels.next = source.session.labels.next :=
        source.session.labels.next_rename rule
      rw [intern, intern, lookup_rename, known, sameSession, sameNext]
      rfl

theorem foldl_intern_rename (names : List String) :
    (names.map rule.text).foldl intern (source.rename rule) =
      (names.foldl intern source).rename rule := by
  induction names generalizing source with
  | nil => rfl
  | cons name rest ih => rw [List.map_cons, List.foldl_cons, intern_rename, ih, List.foldl_cons]

/-- Two runs end in the same state up to the names, and one is refused where the other
is. -/
inductive Alike (rule : Renaming) :
    SourceSession × Except Diagnostic Unit → SourceSession × Except Diagnostic Unit → Prop
  | accepted (source : SourceSession) : Alike rule (source, .ok ()) (source.rename rule, .ok ())
  | refused (source : SourceSession) (diagnostic other : Diagnostic) :
      Alike rule (source, .error diagnostic) (source.rename rule, .error other)

variable {rule}

theorem emitAll_rename (instrs : List Symbolic) :
    ({ source.rename rule with session := (source.rename rule).session.emitAll instrs } :
        SourceSession) =
      ({ source with session := source.session.emitAll instrs } : SourceSession).rename rule := by
  show ({ source.rename rule with session := (source.session.rename rule).emitAll instrs } :
    SourceSession) = _
  rw [Session.emitAll_rename]
  rfl

/-- A statement and the renamed one do the same. They refer to labels by different names,
but the handles of the labels are the same, and so are the instructions. -/
theorem carryOut_rename {here there : Meaning} (renames : rule.Renames here there) :
    Alike rule (source.carryOut here) ((source.rename rule).carryOut there) := by
  cases renames with
  | define name =>
      have placing : (source.rename rule).session.place (source.handle name) =
          (source.session.place (source.handle name)).map (Session.rename rule) :=
        source.session.place_rename rule _
      rw [carryOut, carryOut, handle_rename, placing]
      cases source.session.place (source.handle name) with
      | ok session => exact .accepted { source with session }
      | error error => exact .refused source _ _
  | words values fault =>
      simp only [carryOut, emitAll_rename]
      cases fault with
      | none => exact .accepted _
      | some cause => exact .refused _ _ _
  | pseudo instr =>
      have sameInstr : (instr.map rule.text).map (source.rename rule).handle =
          instr.map source.handle := by
        rw [Pseudo.map_map]
        exact Pseudo.map_congr fun name _ => source.handle_rename rule name
      rw [carryOut, carryOut, sameInstr, emitAll_rename]
      exact .accepted _
  | entry item operands =>
      have sameOperands : (operands.map (·.map rule.text)).map
          (·.map (source.rename rule).handle) = operands.map (·.map source.handle) := by
        rw [List.map_map]
        apply List.map_congr_left
        intro operand _
        rw [Function.comp_apply, Operand.map_map]
        exact Operand.map_congr fun name _ => source.handle_rename rule name
      have samePc : (source.rename rule).session.pc = source.session.pc := rfl
      rw [carryOut, carryOut, sameOperands, samePc]
      cases item.instruction source.session.pc (operands.map (·.map source.handle)) with
      | ok instr => exact .accepted { source with session := source.session.emit instr }
      | error error => exact .refused source _ _
  | refused mentioned cause other => exact .refused source _ _

theorem statement_rename (rule : Renaming) (statement : Statement) :
    Alike rule (source.statement statement)
      ((source.rename rule).statement (rule.statement statement)) := by
  have renames := rule.renames_statement statement
  rw [SourceSession.statement, SourceSession.statement, renames.mentioned, foldl_intern_rename]
  exact carryOut_rename _ renames

/-- Carrying out the renamed statements goes through the same states with new names, and
stops at the same statement. -/
theorem statements_rename (rule : Renaming) (program : List Statement) :
    Alike rule (source.statements program)
      ((source.rename rule).statements (program.map rule.statement)) := by
  induction program generalizing source with
  | nil => exact .accepted source
  | cons first rest ih =>
      have alike := source.statement_rename rule first
      rw [List.map_cons, statements, statements]
      generalize source.statement first = here at alike ⊢
      generalize (source.rename rule).statement (rule.statement first) = there at alike ⊢
      cases alike with
      | accepted middle => exact ih middle
      | refused middle diagnostic other => exact .refused middle diagnostic other

theorem new_rename (rule : Renaming) (config : Config) :
    (SourceSession.new config).rename rule = SourceSession.new config := by
  simp [rename, new, Session.rename, Session.new, LabelTable.rename, LabelTable.empty]

theorem address?_rename (rule : Renaming) (name : String) :
    (source.rename rule).address? (rule.text name) = source.address? name := by
  rw [address?, handle_rename]
  exact congrArg Except.toOption (source.session.labels.address_rename rule _)

/-! ## Runs -/

/-- The statement at a position is the first one that is refused. -/
def FailsAt (source : SourceSession) (program : List Statement) (position : Nat) : Prop :=
  (source.statements (program.take position)).2 = .ok () ∧
    ∃ diagnostic, (source.statements (program.take (position + 1))).2 = .error diagnostic

namespace Alike

variable {here there : SourceSession × Except Diagnostic Unit}

theorem state (alike : Alike rule here there) : there.1 = here.1.rename rule := by
  cases alike <;> rfl

theorem ok_iff (alike : Alike rule here there) : here.2 = .ok () ↔ there.2 = .ok () := by
  cases alike <;> simp

theorem error_iff (alike : Alike rule here there) :
    (∃ diagnostic, here.2 = .error diagnostic) ↔ ∃ diagnostic, there.2 = .error diagnostic := by
  cases alike <;> simp

end Alike

theorem alike_new (rule : Renaming) (config : Config) (program : List Statement) :
    Alike rule ((SourceSession.new config).statements program)
      ((SourceSession.new config).statements (program.map rule.statement)) := by
  have alike := (SourceSession.new config).statements_rename rule program
  rwa [new_rename] at alike

/-- The names of the labels do not matter. The renamed program is refused at the same
statement, if at all. The log and the address of every label are the same, a new name has
the address of the old one, and finishing gives the same image or is refused in both. -/
theorem statements_independent_of_names (rule : Renaming) (config : Config)
    (program : List Statement) :
    let fresh := SourceSession.new config
    let renamed := program.map rule.statement
    let here := fresh.statements program
    let there := fresh.statements renamed
    (∀ position, fresh.FailsAt program position ↔ fresh.FailsAt renamed position) ∧
      (here.2 = .ok () ↔ there.2 = .ok ()) ∧
      there.1.session.log = here.1.session.log ∧
      (∀ label, there.1.session.labels.address label = here.1.session.labels.address label) ∧
      (∀ name, there.1.address? (rule.text name) = here.1.address? name) ∧
      ∀ image, here.1.finish = .ok image ↔ there.1.finish = .ok image := by
  intro fresh renamed here there
  have alike := alike_new rule config program
  have sameState : there.1 = here.1.rename rule := alike.state
  refine ⟨fun position => ?_, alike.ok_iff, ?_, fun label => ?_, fun name => ?_, fun image => ?_⟩
  · have before := alike_new rule config (program.take position)
    have after := alike_new rule config (program.take (position + 1))
    rw [List.map_take] at before after
    exact and_congr before.ok_iff after.error_iff
  · rw [sameState]
    rfl
  · rw [sameState]
    exact here.1.session.labels.address_rename rule label
  · rw [sameState]
    exact here.1.address?_rename rule name
  · have sameImage : there.1.session.image = here.1.session.image := by
      rw [sameState]
      exact here.1.session.image_rename rule
    rw [← toOption_eq_some_iff, ← toOption_eq_some_iff, TwoPass.toOption_finish,
      TwoPass.toOption_finish, sameImage]

end SourceSession

/-- An underscore in front of an identifier gives an identifier. -/
theorem isIdentifier_underscore {name : String} (identifier : isIdentifier name.toList = true) :
    isIdentifier ("_" ++ name).toList = true := by
  rw [String.toList_append]
  show (startsIdentifier '_' && name.toList.all continuesIdentifier) = true
  rw [Bool.and_eq_true_iff, List.all_eq_true]
  exact ⟨rfl, fun _ listed => continuesIdentifier_of_mem identifier listed⟩

/-- Every name gets an underscore in front. -/
def Renaming.underscored : Renaming where
  image name := ⟨"_" ++ name.1, isIdentifier_underscore name.2⟩
  injective first second same := by
    have alike : "_" ++ first.1 = "_" ++ second.1 := congrArg Subtype.val same
    exact Subtype.ext ((String.append_right_inj _).mp alike)

namespace SourceSession

/-- A loop whose label is also the name of a mnemonic, with a label after the end. -/
theorem statements_independent_of_names_loop :
    let program : List Statement := [.label "b", .instr "bne" ["$t0", "$zero", "b"],
      .instr "la" ["$a0", "end"], .word ["-1"], .label "end"]
    let fresh := SourceSession.new ⟨0, .big⟩
    (fresh.statements (program.map Renaming.underscored.statement)).1.finish =
      .ok ⟨0, .big, [0x1500FFFF, 0x3C040000, 0x34840010, 0xFFFFFFFF]⟩ := by
  intro program fresh
  have renamed := statements_independent_of_names .underscored ⟨0, .big⟩ program
  exact (renamed.2.2.2.2.2 _).mp (toOption_eq_some_iff.mp (by decide +kernel))

end SourceSession

end Mips32
