/-
# Renaming labels

A renaming gives every identifier another one, no two the same. Applied to a program it
changes the definitions of labels and the operands that are identifiers, and nothing else.
The program means the same up to the names: an identifier is no register, no number and no
memory operand, so where an operand is read it is a label or it is refused, whatever its
name is.

The causes of refusals are not compared, since they quote the operands.
-/
import Mips32.Proofs.Mention
import Mips32.Proofs.SourceSession

namespace Mips32

/-! ## Renamings -/

/-- The names that a label can have in a text. -/
abbrev Identifier := { name : String // isIdentifier name.toList = true }

/-- A change of names that keeps different names different. -/
structure Renaming where
  image : Identifier → Identifier
  injective : Function.Injective image

namespace Renaming

variable (rule : Renaming)

/-- The new text of an operand. A text that is no identifier stays as it is. -/
def text (text : String) : String :=
  if identifier : isIdentifier text.toList = true then (rule.image ⟨text, identifier⟩).1
  else text

/-- The new form of a statement. Mnemonics and data words stay as they are. -/
def statement : Statement → Statement
  | .label name => .label (rule.text name)
  | .word values => .word values
  | .instr mnemonic operands => .instr mnemonic (operands.map rule.text)

variable {rule}

theorem text_of_identifier {name : String} (identifier : isIdentifier name.toList = true) :
    rule.text name = (rule.image ⟨name, identifier⟩).1 :=
  dif_pos identifier

theorem text_of_not_identifier {text : String} (other : ¬ isIdentifier text.toList = true) :
    rule.text text = text :=
  dif_neg other

theorem isIdentifier_text (text : String) :
    isIdentifier (rule.text text).toList = isIdentifier text.toList := by
  by_cases identifier : isIdentifier text.toList = true
  · rw [text_of_identifier identifier, identifier]
    exact (rule.image ⟨text, identifier⟩).2
  · rw [text_of_not_identifier identifier]

theorem text_injective : Function.Injective rule.text := by
  intro first second same
  have alike : isIdentifier first.toList = isIdentifier second.toList := by
    rw [← isIdentifier_text first, same, isIdentifier_text]
  by_cases identifier : isIdentifier first.toList = true
  · have sameKind : isIdentifier second.toList = true := alike ▸ identifier
    rw [text_of_identifier identifier, text_of_identifier sameKind] at same
    exact congrArg Subtype.val (rule.injective (Subtype.ext same))
  · have other : ¬ isIdentifier second.toList = true := alike ▸ identifier
    rwa [text_of_not_identifier identifier, text_of_not_identifier other] at same

/-! ## Reading

Where an identifier is refused, a new name is refused as well; where it is accepted, it is
accepted as the name of a label. -/

/-- What is read where identifiers are refused does not depend on the names. -/
theorem toOption_read_text {α : Type} {read : String → Except Cause α}
    (refuses : ∀ {name : String}, isIdentifier name.toList = true → (read name).toOption = none)
    (text : String) : (read (rule.text text)).toOption = (read text).toOption := by
  by_cases identifier : isIdentifier text.toList = true
  · rw [refuses identifier, refuses ((isIdentifier_text text).trans identifier)]
  · rw [text_of_not_identifier identifier]

theorem toOption_readReg (rule : Renaming) (text : String) :
    (Source.readReg (rule.text text)).toOption = (Source.readReg text).toOption := by
  apply toOption_read_text
  intro name identifier
  exact congrArg Except.toOption (Source.readReg_of_identifier identifier)

theorem read?_text (rule : Renaming) (text : String) :
    Literal.read? (rule.text text).toList = Literal.read? text.toList := by
  by_cases identifier : isIdentifier text.toList = true
  · rw [Literal.read?_of_identifier identifier,
      Literal.read?_of_identifier ((isIdentifier_text text).trans identifier)]
  · rw [text_of_not_identifier identifier]

theorem toOption_readSigned32 (rule : Renaming) (text : String) :
    (Source.readSigned32 (rule.text text)).toOption =
      (Source.readSigned32 text).toOption := by
  apply toOption_read_text
  intro name identifier
  exact congrArg Except.toOption (Source.readSigned32_of_identifier identifier)

theorem toOption_readLabel (rule : Renaming) (text : String) :
    (Source.readLabel (rule.text text)).toOption =
      (Source.readLabel text).toOption.map rule.text := by
  rw [Source.readLabel, Source.readLabel, isIdentifier_text]
  split <;> rfl

theorem toOption_readOperand (rule : Renaming) (text : String) :
    (Source.readOperand (rule.text text)).toOption =
      (Source.readOperand text).toOption.map (·.map rule.text) := by
  by_cases identifier : isIdentifier text.toList = true
  · rw [Source.readOperand_of_identifier identifier,
      Source.readOperand_of_identifier ((isIdentifier_text text).trans identifier)]
    rfl
  · rw [text_of_not_identifier identifier]
    cases read : Source.readOperand text with
    | error cause => rfl
    | ok operand =>
        have noLabel := Source.label?_of_not_identifier identifier read
        exact congrArg some (Operand.map_of_label?_eq_none rule.text noLabel).symm

/-- The renamed operands are the operands renamed, up to a fault at the same place. -/
theorem readOperands_map (rule : Renaming) (texts : List String) :
    ∃ fault, Source.readOperands (texts.map rule.text) =
        ((Source.readOperands texts).1.map (·.map rule.text), fault) ∧
      fault.isSome = (Source.readOperands texts).2.isSome := by
  induction texts with
  | nil => exact ⟨none, rfl, rfl⟩
  | cons text rest ih =>
      have same := toOption_readOperand rule text
      rw [List.map_cons, Source.readOperands, Source.readOperands]
      cases read : Source.readOperand text with
      | error cause =>
          rw [read] at same
          cases there : Source.readOperand (rule.text text) with
          | error other => exact ⟨some other, rfl, rfl⟩
          | ok operand =>
              rw [there] at same
              cases same
      | ok operand =>
          obtain ⟨fault, readRest, sameFault⟩ := ih
          rw [read] at same
          rw [toOption_eq_some_iff.mp same, readRest]
          exact ⟨fault, rfl, sameFault⟩

/-! ### Pseudo-instructions -/

/-- A reader of operands reads the renamed operands as what it read, renamed. -/
def Respects (rule : Renaming) (read : List String → Except Cause (Pseudo String)) : Prop :=
  ∀ operands, (read (operands.map rule.text)).toOption =
    (read operands).toOption.map (·.map rule.text)

theorem respects_readCompareBranch {make : Reg → Reg → String → Pseudo String}
    (takes : ∀ rs rt target, (make rs rt target).map rule.text =
      make rs rt (rule.text target)) :
    rule.Respects (Source.readCompareBranch make) := by
  rintro (_ | ⟨rs, _ | ⟨rt, _ | ⟨target, _ | _⟩⟩⟩)
  case cons.cons.cons.nil =>
    simp only [List.map_cons, List.map_nil, Source.readCompareBranch, toOption_bind,
      toOption_readReg, toOption_readLabel, toOption_pure, Option.map_bind, Option.bind_map,
      Function.comp_def, Option.map_some, takes]
  all_goals rfl

theorem respects_readUnary {make : Reg → Reg → Pseudo String}
    (plain : ∀ rd rs, (make rd rs).map rule.text = make rd rs) :
    rule.Respects (Source.readUnary make) := by
  rintro (_ | ⟨rd, _ | ⟨rs, _ | _⟩⟩)
  case cons.cons.nil =>
    simp only [List.map_cons, List.map_nil, Source.readUnary, toOption_bind, toOption_readReg,
      toOption_pure, Option.map_bind, Function.comp_def, Option.map_some, plain]
  all_goals rfl

theorem respects_readBinary {make : Reg → Reg → Reg → Pseudo String}
    (plain : ∀ rd rs rt, (make rd rs rt).map rule.text = make rd rs rt) :
    rule.Respects (Source.readBinary make) := by
  rintro (_ | ⟨rd, _ | ⟨rs, _ | ⟨rt, _ | _⟩⟩⟩)
  case cons.cons.cons.nil =>
    simp only [List.map_cons, List.map_nil, Source.readBinary, toOption_bind, toOption_readReg,
      toOption_pure, Option.map_bind, Function.comp_def, Option.map_some, plain]
  all_goals rfl

theorem respects_readBranch : rule.Respects Source.readBranch := by
  rintro (_ | ⟨target, _ | _⟩)
  case cons.nil =>
    simp only [List.map_cons, List.map_nil, Source.readBranch, toOption_bind, toOption_readLabel,
      toOption_pure, Option.map_bind, Option.bind_map, Function.comp_def, Option.map_some,
      Pseudo.map]
  all_goals rfl

theorem respects_readLoadImmediate : rule.Respects Source.readLoadImmediate := by
  rintro (_ | ⟨rd, _ | ⟨value, _ | _⟩⟩)
  case cons.cons.nil =>
    simp only [List.map_cons, List.map_nil, Source.readLoadImmediate, toOption_bind,
      toOption_readReg, toOption_readSigned32, toOption_pure, Option.map_bind,
      Function.comp_def, Option.map_some, Pseudo.map]
  all_goals rfl

theorem respects_readLoadAddress : rule.Respects Source.readLoadAddress := by
  rintro (_ | ⟨rd, _ | ⟨address, _ | _⟩⟩)
  case cons.cons.nil =>
    simp only [List.map_cons, List.map_nil, Source.readLoadAddress, toOption_bind,
      toOption_readReg, read?_text, Option.map_bind]
    apply congrArg
    funext base
    cases Literal.read? address.toList with
    | some value =>
        dsimp only
        cases Source.word32? value <;> rfl
    | none =>
        simp only [toOption_bind, toOption_readLabel, toOption_pure, Option.map_bind,
          Option.bind_map, Function.comp_def, Option.map_some, Pseudo.map]
  all_goals rfl

/-- A mnemonic that is a pseudo-instruction reads the renamed operands as what it read,
renamed. -/
theorem toOption_readPseudo? (rule : Renaming) (mnemonic : String) (operands : List String) :
    (Source.readPseudo? mnemonic (operands.map rule.text)).map Except.toOption =
      (Source.readPseudo? mnemonic operands).map fun reading =>
        reading.toOption.map (·.map rule.text) := by
  unfold Source.readPseudo?
  split
  case h_1 => exact congrArg some (respects_readBranch operands)
  case h_2 | h_3 | h_4 | h_5 =>
    exact congrArg some (respects_readCompareBranch (fun _ _ _ => rfl) operands)
  case h_6 | h_7 | h_8 => exact congrArg some (respects_readUnary (fun _ _ => rfl) operands)
  case h_9 | h_10 => exact congrArg some (respects_readBinary (fun _ _ _ => rfl) operands)
  case h_11 => exact congrArg some (respects_readLoadImmediate operands)
  case h_12 => exact congrArg some (respects_readLoadAddress operands)
  case h_13 => rfl

/-! ### Statements -/

/-- A meaning and the same with new names. A refusal may have another cause. -/
inductive Renames (rule : Renaming) : Meaning → Meaning → Prop
  | define (name : String) : Renames rule (.define name) (.define (rule.text name))
  | words (values : List UInt32) (fault : Option Cause) :
      Renames rule (.words values fault) (.words values fault)
  | pseudo (instr : Pseudo String) :
      Renames rule (.pseudo instr) (.pseudo (instr.map rule.text))
  | entry (item : Entry) (operands : List (Operand String)) :
      Renames rule (.entry item operands) (.entry item (operands.map (·.map rule.text)))
  | refused (mentioned : List String) (cause other : Cause) :
      Renames rule (.refused mentioned cause) (.refused (mentioned.map rule.text) other)

theorem filterMap_label?_map (operands : List (Operand String)) :
    (operands.map (·.map rule.text)).filterMap Operand.label? =
      (operands.filterMap Operand.label?).map rule.text := by
  rw [List.filterMap_map, List.map_filterMap]
  exact congrArg (operands.filterMap ·) (funext fun operand => operand.label?_map rule.text)

theorem Renames.mentioned {here there : Meaning} (renames : rule.Renames here there) :
    there.mentioned = here.mentioned.map rule.text := by
  cases renames with
  | define name => rfl
  | words values fault => rfl
  | pseudo instr =>
      show (instr.map rule.text).label?.toList = _
      rw [Pseudo.label?_map, Option.toList_map]
      rfl
  | entry item operands => exact filterMap_label?_map operands
  | refused mentioned cause other => rfl

theorem renames_instr (mnemonic : String) (operands : List String) :
    rule.Renames (Statement.instr mnemonic operands).meaning
      (Statement.instr mnemonic (operands.map rule.text)).meaning := by
  have same := toOption_readPseudo? rule mnemonic operands
  rw [Statement.meaning, Statement.meaning]
  cases here : Source.readPseudo? mnemonic operands with
  | some reading =>
      rw [here] at same
      obtain ⟨other, there, alike⟩ := Option.map_eq_some_iff.mp same
      rw [there]
      cases reading with
      | ok instr =>
          rw [toOption_eq_some_iff.mp alike]
          exact .pseudo instr
      | error cause =>
          cases other with
          | ok instr => cases alike
          | error otherCause => exact .refused [] cause otherCause
  | none =>
      rw [here] at same
      rw [Option.map_eq_none_iff.mp same]
      cases Entry.find? mnemonic with
      | none => exact .refused [] _ _
      | some entry =>
          obtain ⟨fault, there, sameFault⟩ := readOperands_map rule operands
          rw [there]
          generalize Source.readOperands operands = reading at sameFault
          obtain ⟨read, ownFault⟩ := reading
          cases ownFault with
          | none =>
              cases fault with
              | none => exact .entry entry read
              | some cause => cases sameFault
          | some cause =>
              cases fault with
              | none => cases sameFault
              | some other =>
                  dsimp only
                  rw [filterMap_label?_map]
                  exact .refused _ cause other

/-- The renamed statement means the same with new names. -/
theorem renames_statement (rule : Renaming) (statement : Statement) :
    rule.Renames statement.meaning (rule.statement statement).meaning := by
  cases statement with
  | label name => exact .define name
  | word values => exact .words ..
  | instr mnemonic operands => exact renames_instr mnemonic operands

end Renaming

end Mips32
