/-
# Encoding a statement at its address

The second pass gives a statement the words that its records get in the end, as
long as the symbols and the label table agree on addresses: it makes no difference
whether a label is replaced by its address before an instruction is formed or when
its record is resolved. A statement that is refused while records are formed has no
words under any symbols, and one that is not has as many as the first pass counts.
-/
import Mips32.Proofs.Image
import Mips32.Proofs.Mention
import Mips32.Proofs.Shape
import Mips32.Proofs.SourceSession
import Mips32.Proofs.TwoPass.Reference

namespace Mips32.TwoPass

/-- The symbols hold the addresses that the table gives to the handles of the
names. -/
def Agrees (symbols : Symbols) (handle : String → Label) (labels : LabelTable) : Prop :=
  ∀ name, symbols.lookup name = (labels.address (handle name)).toOption

variable {symbols : Symbols} {handle : String → Label} {labels : LabelTable}

/-! ## Catalog entries -/

theorem branchTo_eq (agrees : Agrees symbols handle labels) (pc : UInt32)
    (opcode rs rt : Nat) (target : String) :
    branchTo symbols pc opcode rs rt target =
      ((Symbolic.branch opcode rs rt (handle target)).resolve pc labels).toOption := by
  rw [branchTo, agrees target, Symbolic.branch, Symbolic.resolve, Immediate.resolve]
  cases labels.address (handle target) with
  | error error => rfl
  | ok address =>
      show (branchOffset address pc).toOption.bind _ = (branchOffset address pc >>= _).toOption
      cases branchOffset address pc <;> rfl

theorem jumpTo_eq (labels : LabelTable) (pc : UInt32) (opcode : Nat) (address : UInt32) :
    jumpTo pc opcode address =
      (Symbolic.jumpToAddress opcode address pc).toOption.bind fun instr =>
        (instr.resolve pc labels).toOption := by
  rw [jumpTo, Symbolic.jumpToAddress]
  cases jumpIndex address pc <;> rfl

theorem jumpTo_label_eq (agrees : Agrees symbols handle labels) (pc : UInt32) (opcode : Nat)
    (target : String) :
    ((symbols.lookup target).bind fun address => jumpTo pc opcode address) =
      ((Symbolic.jumpToLabel opcode (handle target)).resolve pc labels).toOption := by
  rw [agrees target, Symbolic.jumpToLabel, Symbolic.resolve, Target.resolve]
  cases labels.address (handle target) with
  | error error => rfl
  | ok address =>
      show jumpTo pc opcode address = (jumpIndex address pc >>= _).toOption
      rw [jumpTo]
      cases jumpIndex address pc <;> rfl

theorem withLiteral_eq (labels : LabelTable) (pc : UInt32) (entry : Entry)
    (rs rt : Nat) (value : Int) :
    withLiteral entry.opcode rs rt value =
      ((entry.signed value).map (Symbolic.literal entry.opcode rs rt)).toOption.bind
        fun instr => (instr.resolve pc labels).toOption := by
  rw [withLiteral, Entry.signed]
  split <;> rfl

theorem entryInstruction_eq_none_of_mismatch {entry : Entry}
    {operands : List (Operand String)} (refused : ¬ entry.shape.Takes operands)
    (symbols : Symbols) (pc : UInt32) : entryInstruction symbols pc entry operands = none := by
  obtain ⟨mnemonic, shape, opcode, funct, selector⟩ := entry
  cases shape <;> unfold entryInstruction <;> dsimp only <;> split <;>
    first | rfl | exact absurd (by constructor) refused

/-- An entry with addresses for labels gives what its symbolic instruction resolves
to. -/
theorem entryInstruction_eq (agrees : Agrees symbols handle labels) (pc : UInt32)
    (entry : Entry) (operands : List (Operand String)) :
    entryInstruction symbols pc entry operands =
      (entry.instruction pc (operands.map (·.map handle))).toOption.bind fun instr =>
        (instr.resolve pc labels).toOption := by
  by_cases taken : entry.shape.Takes operands
  · obtain ⟨mnemonic, shape, opcode, funct, selector⟩ := entry
    cases taken with
    | shiftByAmount rd rt amount =>
        unfold entryInstruction Entry.instruction
        dsimp only [List.map, Operand.map]
        split <;> rfl
    | immediate | upperImmediate | memory | floatMemory => exact withLiteral_eq ..
    | branch | zeroBranch | floatBranch => exact branchTo_eq agrees ..
    | jumpToAddress address =>
        unfold entryInstruction Entry.instruction
        dsimp only [List.map, Operand.map]
        split
        · rw [toOption_mapError]
          exact jumpTo_eq ..
        · rfl
    | jumpToLabel target => exact jumpTo_label_eq agrees ..
    | trapCode code =>
        unfold entryInstruction Entry.instruction
        dsimp only [List.map, Operand.map]
        split <;> rfl
    | _ => rfl
  · have mismatch : ¬ entry.shape.Takes (operands.map (·.map handle)) :=
      fun replaced => taken replaced.of_map
    rw [entryInstruction_eq_none_of_mismatch taken, entry.instruction_eq_mismatch mismatch]
    rfl

/-- An entry that refuses its operands has no instruction whatever the addresses
are. -/
theorem entryInstruction_eq_none {pc : UInt32} {entry : Entry}
    {operands : List (Operand String)}
    (refused : (entry.instruction pc (operands.map (·.map handle))).toOption = none)
    (symbols : Symbols) : entryInstruction symbols pc entry operands = none := by
  by_cases taken : entry.shape.Takes operands
  · obtain ⟨mnemonic, shape, opcode, funct, selector⟩ := entry
    -- Only the numbers in the operands are left to refuse.
    cases taken with
    | shiftByAmount rd rt amount =>
        unfold Entry.instruction at refused
        unfold entryInstruction
        dsimp only [List.map, Operand.map] at refused ⊢
        split at refused
        · cases refused
        · exact if_neg ‹_›
    | immediate | upperImmediate | memory | floatMemory =>
        exact (withLiteral_eq .empty pc ..).trans (congrArg (Option.bind · _) refused)
    | jumpToAddress address =>
        unfold Entry.instruction at refused
        unfold entryInstruction
        dsimp only [List.map, Operand.map] at refused ⊢
        split at refused
        · rename_i fits
          rw [toOption_mapError] at refused
          rw [if_pos fits, jumpTo_eq .empty, refused]
          rfl
        · exact if_neg ‹_›
    | trapCode code =>
        unfold Entry.instruction at refused
        unfold entryInstruction
        dsimp only [List.map, Operand.map] at refused ⊢
        split at refused
        · cases refused
        · exact if_neg ‹_›
    | _ => cases refused
  · exact entryInstruction_eq_none_of_mismatch taken symbols pc

/-! ## Records -/

/-- The concrete instructions of records, if every record has one. -/
def concretesOf? (labels : LabelTable) (records : List Record) : Option (List Concrete) :=
  records.mapM fun record => (record.instr.resolve record.pc labels).toOption

theorem concretesOf?_cons (labels : LabelTable) (record : Record) (rest : List Record) :
    concretesOf? labels (record :: rest) =
      (record.instr.resolve record.pc labels).toOption.bind fun instr =>
        (concretesOf? labels rest).map fun instrs => instr :: instrs := by
  simp only [concretesOf?, List.mapM_cons, Option.map_eq_bind]
  rfl

/-- Resolving all records and then packing them is the same as packing each record
once it is resolved. -/
theorem wordsOf?_eq (labels : LabelTable) (records : List Record) :
    wordsOf? labels records =
      (concretesOf? labels records).bind fun instrs =>
        instrs.mapM fun instr => instr.encode.toOption := by
  induction records with
  | nil => rfl
  | cons record rest ih =>
      rw [wordsOf?_cons, concretesOf?_cons, ih, Record.word, toOption_bind]
      cases (record.instr.resolve record.pc labels).toOption with
      | none => rfl
      | some instr =>
          cases (concretesOf? labels rest) with
          | none => simp
          | some instrs =>
              simp only [Option.bind_some, Option.map_some, List.mapM_cons]
              simp only [Option.map_eq_bind]
              rfl

theorem concretesOf?_data (labels : LabelTable) (pc : UInt32) (values : List UInt32) :
    concretesOf? labels (Session.recordsFrom pc (values.map .data)) =
      some (values.map .data) := by
  induction values generalizing pc with
  | nil => rfl
  | cons value rest ih =>
      rw [List.map_cons, Session.recordsFrom, concretesOf?_cons, ih]
      rfl

theorem mapM_encode_data (values : List UInt32) :
    (values.map Instr.data).mapM (fun instr : Concrete => instr.encode.toOption) =
      some values := by
  induction values with
  | nil => rfl
  | cons value rest ih =>
      rw [List.map_cons, List.mapM_cons, ih]
      rfl

/-! ## Pseudo-instructions -/

/-- A branch that follows one instruction without labels stands at the next
address. -/
theorem compareBranch_eq (agrees : Agrees symbols handle labels) {pc : UInt32}
    {instr : Symbolic} {first : Concrete} (resolved : instr.resolve pc labels = .ok first)
    (opcode rs rt : Nat) (target : String) :
    (do return [first, ← branchTo symbols (pc + 4) opcode rs rt target]) =
      concretesOf? labels
        [⟨pc, instr⟩, ⟨pc + 4, Symbolic.branch opcode rs rt (handle target)⟩] := by
  rw [branchTo_eq agrees, concretesOf?_cons, concretesOf?_cons, resolved]
  cases (Symbolic.branch opcode rs rt (handle target)).resolve (pc + 4) labels <;> rfl

/-- A pseudo-instruction with addresses for labels gives what its expansion
resolves to, each instruction at its own address. -/
theorem pseudoInstructions_eq (agrees : Agrees symbols handle labels) (pc : UInt32)
    (pseudo : Pseudo String) :
    pseudoInstructions symbols pc pseudo =
      concretesOf? labels (Session.recordsFrom pc (pseudo.map handle).expand) := by
  cases pseudo with
  | b target =>
      rw [pseudoInstructions, branchTo_eq agrees]
      rfl
  | blt | bge | bgt | ble => exact compareBranch_eq agrees rfl ..
  | laLabel rd target =>
      rw [pseudoInstructions, agrees target]
      show _ = concretesOf? labels
        [⟨pc, .immediate Opcode.lui 0 rd.id (.high (handle target))⟩,
          ⟨pc + 4, .immediate Opcode.ori rd.id rd.id (.low (handle target))⟩]
      rw [concretesOf?_cons, concretesOf?_cons]
      simp only [Symbolic.resolve, Immediate.resolve]
      cases labels.address (handle target) <;> rfl
  | li rd value =>
      show some [loadNumber rd value] = concretesOf? labels [⟨pc, Pseudo.loadImmediate rd value⟩]
      rw [concretesOf?_cons, loadNumber, Pseudo.loadImmediate]
      split <;> rfl
  | _ => rfl

/-! ## Statements -/

theorem mapM_dataWord (values : List String) :
    values.mapM dataWord =
      match Source.readWords values with
      | (words, none) => some words
      | (_, some _) => none := by
  induction values with
  | nil => rfl
  | cons text rest ih =>
      rw [List.mapM_cons, ih, dataWord, Source.readWords]
      cases Source.readNumber text with
      | error cause => rfl
      | ok value =>
          simp only [toOption_ok, Option.bind_eq_bind, Option.bind_some]
          cases Source.word32? value with
          | none => rfl
          | some word =>
              cases Source.readWords rest with
              | mk words fault => cases fault <;> rfl

theorem mapM_readOperand (texts : List String) :
    (texts.mapM fun text => (Source.readOperand text).toOption) =
      match Source.readOperands texts with
      | (operands, none) => some operands
      | (_, some _) => none := by
  induction texts with
  | nil => rfl
  | cons text rest ih =>
      rw [List.mapM_cons, ih, Source.readOperands]
      cases Source.readOperand text with
      | error cause => rfl
      | ok operand =>
          dsimp only
          cases Source.readOperands rest with
          | mk operands fault => cases fault <;> rfl

/-- The concrete instructions of a statement, by its meaning. -/
def meaningInstructions (symbols : Symbols) (pc : UInt32) : Meaning → Option (List Concrete)
  | .define _ => some []
  | .words values none => some (values.map .data)
  | .words _ (some _) => none
  | .pseudo pseudo => pseudoInstructions symbols pc pseudo
  | .entry entry operands => (entryInstruction symbols pc entry operands).map ([·])
  | .refused .. => none

theorem instructions_eq (symbols : Symbols) (pc : UInt32) (mnemonic : String)
    (operands : List String) :
    instructions symbols pc mnemonic operands =
      meaningInstructions symbols pc (Statement.instr mnemonic operands).meaning := by
  rw [instructions, mapM_readOperand, Statement.meaning]
  cases Source.readPseudo? mnemonic operands with
  | some reading => cases reading <;> rfl
  | none =>
      cases Entry.find? mnemonic with
      | none => rfl
      | some entry =>
          cases Source.readOperands operands with
          | mk read fault =>
              cases fault with
              | none =>
                  show (entryInstruction symbols pc entry read).bind _ =
                    (entryInstruction symbols pc entry read).map _
                  cases entryInstruction symbols pc entry read <;> rfl
              | some cause => rfl

/-- A statement is encoded by packing the concrete instructions of its meaning. -/
theorem encode_eq (symbols : Symbols) (pc : UInt32) (statement : Statement) :
    encode symbols pc statement =
      (meaningInstructions symbols pc statement.meaning).bind fun instrs =>
        instrs.mapM fun instr => instr.encode.toOption := by
  cases statement with
  | label name => rfl
  | word values =>
      rw [encode, mapM_dataWord, Statement.meaning]
      cases Source.readWords values with
      | mk words fault =>
          cases fault with
          | none => exact (mapM_encode_data words).symm
          | some cause => rfl
  | instr mnemonic operands =>
      rw [encode, instructions_eq]
      rfl

/-- Addresses that are put in before an instruction is formed and addresses that
records are resolved with give the same instructions. -/
theorem meaningInstructions_eq (agrees : Agrees symbols handle labels) (pc : UInt32)
    (meaning : Meaning) :
    meaningInstructions symbols pc meaning =
      (meaning.instrs handle pc).bind fun instrs =>
        concretesOf? labels (Session.recordsFrom pc instrs) := by
  cases meaning with
  | define name => rfl
  | words values fault =>
      cases fault with
      | none => exact (concretesOf?_data labels pc values).symm
      | some cause => rfl
  | pseudo pseudo => exact pseudoInstructions_eq agrees pc pseudo
  | entry entry operands =>
      rw [meaningInstructions, Meaning.instrs, entryInstruction_eq agrees]
      cases entry.instruction pc (operands.map (·.map handle)) with
      | error error => rfl
      | ok instr =>
          show ((instr.resolve pc labels).toOption).map _ = concretesOf? labels [⟨pc, instr⟩]
          rw [concretesOf?_cons]
          cases instr.resolve pc labels <;> rfl
  | refused mentioned cause => rfl

theorem meaningInstructions_eq_none {pc : UInt32} {meaning : Meaning}
    (refused : meaning.instrs handle pc = none) (symbols : Symbols) :
    meaningInstructions symbols pc meaning = none := by
  cases meaning with
  | define name => cases refused
  | words values fault =>
      cases fault with
      | none => cases refused
      | some cause => rfl
  | pseudo pseudo => cases refused
  | entry entry operands =>
      rw [meaningInstructions, entryInstruction_eq_none (Option.map_eq_none_iff.mp refused)]
      rfl
  | refused mentioned cause => rfl

/-- The second pass gives a statement the words of its records. -/
theorem encode_eq_wordsOf? (agrees : Agrees symbols handle labels) {pc : UInt32}
    {statement : Statement} {instrs : List Symbolic}
    (formed : statement.meaning.instrs handle pc = some instrs) :
    encode symbols pc statement = wordsOf? labels (Session.recordsFrom pc instrs) := by
  rw [encode_eq, meaningInstructions_eq agrees, formed, Option.bind_some, wordsOf?_eq]

/-- A statement that is refused has no words under any symbols. -/
theorem encode_eq_none {pc : UInt32} {statement : Statement}
    (refused : statement.meaning.instrs handle pc = none) (symbols : Symbols) :
    encode symbols pc statement = none := by
  rw [encode_eq, meaningInstructions_eq_none refused]
  rfl

/-! ## Sizes -/

theorem length_readWords {values : List String} {words : List UInt32}
    (read : Source.readWords values = (words, none)) : words.length = values.length := by
  induction values generalizing words with
  | nil =>
      cases read
      rfl
  | cons text rest ih =>
      rw [Source.readWords] at read
      split at read
      · cases read
      · split at read
        · cases read
        · rename_i word _
          obtain ⟨rfl, noFault⟩ := Prod.mk.inj read
          exact congrArg (· + 1) (ih (Prod.ext rfl noFault))

/-- The mnemonic of a pseudo-instruction fixes the length of its expansion. -/
theorem length_expand {mnemonic : String} {operands : List String} {pseudo : Pseudo String}
    (read : Source.readPseudo? mnemonic operands = some (.ok pseudo))
    (handle : String → Label) :
    (pseudo.map handle).expand.length = size (.instr mnemonic operands) := by
  unfold Source.readPseudo? at read
  split at read
  case h_1 =>
    obtain ⟨target, -, rfl⟩ := Source.readBranch_eq_ok (Option.some.inj read)
    rfl
  case h_2 | h_3 | h_4 | h_5 =>
    obtain ⟨rs, rt, target, -, rfl⟩ := Source.readCompareBranch_eq_ok (Option.some.inj read)
    rfl
  case h_6 | h_7 | h_8 =>
    obtain ⟨rd, rs, -, rfl⟩ := Source.readUnary_eq_ok (Option.some.inj read)
    rfl
  case h_9 | h_10 =>
    obtain ⟨rd, rs, rt, -, rfl⟩ := Source.readBinary_eq_ok (Option.some.inj read)
    rfl
  case h_11 =>
    obtain ⟨rd, value, -, rfl⟩ := Source.readLoadImmediate_eq_ok (Option.some.inj read)
    rfl
  case h_12 =>
    obtain ⟨rd, value, -, rfl⟩ | ⟨rd, target, -, rfl⟩ :=
      Source.readLoadAddress_eq_ok (Option.some.inj read)
    · rfl
    · rfl
  case h_13 => cases read

/-- A mnemonic that is no pseudo-instruction stands for one instruction. -/
theorem size_of_not_pseudo {mnemonic : String} {operands : List String}
    (read : Source.readPseudo? mnemonic operands = none) :
    size (.instr mnemonic operands) = 1 := by
  unfold Source.readPseudo? at read
  split at read <;> cases read
  simp_all [size]

/-- A statement that is not refused has as many records as the first pass counts. -/
theorem length_instrs {handle : String → Label} {pc : UInt32} {statement : Statement}
    {instrs : List Symbolic} (formed : statement.meaning.instrs handle pc = some instrs) :
    instrs.length = size statement := by
  cases statement with
  | label name =>
      cases formed
      rfl
  | word values =>
      rw [Statement.meaning] at formed
      cases read : Source.readWords values with
      | mk words fault =>
          rw [read] at formed
          cases fault with
          | none =>
              cases formed
              rw [List.length_map]
              exact length_readWords read
          | some cause => cases formed
  | instr mnemonic operands =>
      rw [Statement.meaning] at formed
      split at formed
      · rename_i read
        cases formed
        exact length_expand read handle
      · cases formed
      · rename_i unread
        rw [size_of_not_pseudo unread]
        split at formed
        · cases formed
        · split at formed
          · obtain ⟨instr, -, rfl⟩ := Option.map_eq_some_iff.mp formed
            rfl
          · cases formed

end Mips32.TwoPass
