/-
# What statements mention

A session creates a label for every name in `Meaning.mentioned`, a list that the readers of
operands make up. Here the list is found in the text: a statement that is not refused
mentions its operands that are identifiers, all of them and in their order. A refused
statement mentions the first ones of them, those in front of the operand that it is refused
for, or none.

This holds for each reader on its own. An identifier is no register, no number and no memory
operand, so where an operand is read it is a label or it is refused, and no other text is a
label.
-/
import Mips32.Proofs.Identifier
import Mips32.Proofs.Outcome

namespace Mips32

/-! ## Identifiers as operands -/

namespace Source

variable {name : String}

/-- An identifier is no register, since it has no dollar sign. -/
theorem readReg_of_identifier (identifier : isIdentifier name.toList = true) :
    readReg name = .error (.registerExpected name) :=
  if_neg (head?_ne_of_identifier identifier rfl)

theorem readSigned32_of_identifier (identifier : isIdentifier name.toList = true) :
    readSigned32 name = .error (.badNumber name) := by
  rw [readSigned32, readNumber, Literal.read?_of_identifier identifier]
  rfl

/-- An identifier is a label where any operand may stand. -/
theorem readOperand_of_identifier (identifier : isIdentifier name.toList = true) :
    readOperand name = .ok (.label name) := by
  have noParenthesis : '(' ∉ name.toList := not_mem_of_identifier identifier rfl
  rw [readOperand, if_neg noParenthesis]
  split
  · rename_i dollar
    exact absurd (congrArg List.head? dollar) (head?_ne_of_identifier identifier rfl)
  · rw [Literal.read?_of_identifier identifier, if_pos identifier]

theorem readMemory_eq_ok {text : String} {operand : Operand String}
    (read : readMemory text = .ok operand) : ∃ offset base, operand = .memory offset base := by
  unfold readMemory at read
  dsimp only at read
  split at read
  · cases read
  · split at read
    all_goals
      simp only [bind_eq_ok_iff] at read
      obtain ⟨offset, -, base, -, made⟩ := read
      exact ⟨offset, base, (Except.ok.inj made).symm⟩

/-- No other text is a label. -/
theorem label?_of_not_identifier {text : String} (other : ¬ isIdentifier text.toList = true)
    {operand : Operand String} (read : readOperand text = .ok operand) :
    operand.label? = none := by
  unfold readOperand at read
  split at read
  · obtain ⟨offset, base, rfl⟩ := readMemory_eq_ok read
    rfl
  · split at read
    · split at read
      · obtain ⟨reg, -, rfl⟩ := map_eq_ok_iff.mp read
        rfl
      · obtain ⟨reg, -, rfl⟩ := map_eq_ok_iff.mp read
        rfl
    · split at read
      · cases read
        rfl
      · cases read

/-- An operand refers to its text if that is an identifier, and else to nothing. -/
theorem label?_of_readOperand {text : String} {operand : Operand String}
    (read : readOperand text = .ok operand) :
    operand.label? = if isIdentifier text.toList then some text else none := by
  split
  · rename_i identifier
    rw [readOperand_of_identifier identifier] at read
    cases read
    rfl
  · rename_i other
    exact label?_of_not_identifier other read

/-! ## Identifiers among operands -/

/-- The operands that are identifiers. -/
def identifiers (operands : List String) : List String :=
  operands.filter fun text => isIdentifier text.toList

theorem mem_identifiers {operands : List String} :
    name ∈ identifiers operands ↔ name ∈ operands ∧ isIdentifier name.toList = true :=
  List.mem_filter

theorem identifiers_cons_of_pos {text : String} (identifier : isIdentifier text.toList = true)
    (rest : List String) : identifiers (text :: rest) = text :: identifiers rest :=
  List.filter_cons_of_pos identifier

theorem identifiers_cons_of_neg {text : String} (other : ¬ isIdentifier text.toList = true)
    (rest : List String) : identifiers (text :: rest) = identifiers rest :=
  List.filter_cons_of_neg other

theorem identifiers_cons_of_readReg {text : String} {reg : Reg} (read : readReg text = .ok reg)
    (rest : List String) : identifiers (text :: rest) = identifiers rest := by
  refine identifiers_cons_of_neg (fun identifier => ?_) rest
  rw [readReg_of_identifier identifier] at read
  cases read

theorem identifiers_of_readLabel {text : String} (read : readLabel text = .ok name) :
    identifiers [text] = [name] := by
  rw [readLabel] at read
  split at read
  · cases read
    exact identifiers_cons_of_pos ‹_› []
  · cases read

theorem identifiers_of_readSigned32 {text : String} {value : Int}
    (read : readSigned32 text = .ok value) : identifiers [text] = [] := by
  refine identifiers_cons_of_neg (fun identifier => ?_) []
  rw [readSigned32_of_identifier identifier] at read
  cases read

theorem identifiers_of_read? {text : String} {value : Int}
    (read : Literal.read? text.toList = some value) : identifiers [text] = [] := by
  refine identifiers_cons_of_neg (fun identifier => ?_) []
  rw [Literal.read?_of_identifier identifier] at read
  cases read

/-! ## Pseudo-instructions -/

variable {operands : List String} {pseudo : Pseudo String}

theorem readCompareBranch_eq_ok {make : Reg → Reg → String → Pseudo String}
    (read : readCompareBranch make operands = .ok pseudo) :
    ∃ rs rt target, identifiers operands = [target] ∧ pseudo = make rs rt target := by
  unfold readCompareBranch at read
  split at read
  · simp only [bind_eq_ok_iff] at read
    obtain ⟨rs, first, rt, second, target, label, made⟩ := read
    refine ⟨rs, rt, target, ?_, (Except.ok.inj made).symm⟩
    rw [identifiers_cons_of_readReg first, identifiers_cons_of_readReg second,
      identifiers_of_readLabel label]
  · cases read

theorem readUnary_eq_ok {make : Reg → Reg → Pseudo String}
    (read : readUnary make operands = .ok pseudo) :
    ∃ rd rs, identifiers operands = [] ∧ pseudo = make rd rs := by
  unfold readUnary at read
  split at read
  · simp only [bind_eq_ok_iff] at read
    obtain ⟨rd, first, rs, second, made⟩ := read
    refine ⟨rd, rs, ?_, (Except.ok.inj made).symm⟩
    rw [identifiers_cons_of_readReg first, identifiers_cons_of_readReg second]
    rfl
  · cases read

theorem readBinary_eq_ok {make : Reg → Reg → Reg → Pseudo String}
    (read : readBinary make operands = .ok pseudo) :
    ∃ rd rs rt, identifiers operands = [] ∧ pseudo = make rd rs rt := by
  unfold readBinary at read
  split at read
  · simp only [bind_eq_ok_iff] at read
    obtain ⟨rd, first, rs, second, rt, third, made⟩ := read
    refine ⟨rd, rs, rt, ?_, (Except.ok.inj made).symm⟩
    rw [identifiers_cons_of_readReg first, identifiers_cons_of_readReg second,
      identifiers_cons_of_readReg third]
    rfl
  · cases read

theorem readBranch_eq_ok (read : readBranch operands = .ok pseudo) :
    ∃ target, identifiers operands = [target] ∧ pseudo = .b target := by
  unfold readBranch at read
  split at read
  · simp only [bind_eq_ok_iff] at read
    obtain ⟨target, label, made⟩ := read
    exact ⟨target, identifiers_of_readLabel label, (Except.ok.inj made).symm⟩
  · cases read

theorem readLoadImmediate_eq_ok (read : readLoadImmediate operands = .ok pseudo) :
    ∃ rd value, identifiers operands = [] ∧ pseudo = .li rd value := by
  unfold readLoadImmediate at read
  split at read
  · simp only [bind_eq_ok_iff] at read
    obtain ⟨rd, first, value, number, made⟩ := read
    refine ⟨rd, value, ?_, (Except.ok.inj made).symm⟩
    rw [identifiers_cons_of_readReg first, identifiers_of_readSigned32 number]
  · cases read

theorem readLoadAddress_eq_ok (read : readLoadAddress operands = .ok pseudo) :
    (∃ rd value, identifiers operands = [] ∧ pseudo = .la rd value) ∨
      ∃ rd target, identifiers operands = [target] ∧ pseudo = .laLabel rd target := by
  unfold readLoadAddress at read
  split at read
  · simp only [bind_eq_ok_iff] at read
    obtain ⟨rd, first, made⟩ := read
    rw [identifiers_cons_of_readReg first]
    split at made
    · rename_i number
      split at made
      · exact .inl ⟨rd, _, identifiers_of_read? number, (Except.ok.inj made).symm⟩
      · cases made
    · simp only [bind_eq_ok_iff] at made
      obtain ⟨target, label, made⟩ := made
      exact .inr ⟨rd, target, identifiers_of_readLabel label, (Except.ok.inj made).symm⟩
  · cases read

/-- A pseudo-instruction refers to the only identifier among its operands, if there is
one. -/
theorem label?_of_readPseudo? {mnemonic : String}
    (read : readPseudo? mnemonic operands = some (.ok pseudo)) :
    pseudo.label?.toList = identifiers operands := by
  unfold readPseudo? at read
  split at read
  case h_1 =>
    obtain ⟨target, only, rfl⟩ := readBranch_eq_ok (Option.some.inj read)
    exact only.symm
  case h_2 | h_3 | h_4 | h_5 =>
    obtain ⟨rs, rt, target, only, rfl⟩ := readCompareBranch_eq_ok (Option.some.inj read)
    exact only.symm
  case h_6 | h_7 | h_8 =>
    obtain ⟨rd, rs, none, rfl⟩ := readUnary_eq_ok (Option.some.inj read)
    exact none.symm
  case h_9 | h_10 =>
    obtain ⟨rd, rs, rt, none, rfl⟩ := readBinary_eq_ok (Option.some.inj read)
    exact none.symm
  case h_11 =>
    obtain ⟨rd, value, none, rfl⟩ := readLoadImmediate_eq_ok (Option.some.inj read)
    exact none.symm
  case h_12 =>
    obtain ⟨rd, value, none, rfl⟩ | ⟨rd, target, only, rfl⟩ :=
      readLoadAddress_eq_ok (Option.some.inj read)
    · exact none.symm
    · exact only.symm
  case h_13 => cases read

/-! ## Statements -/

/-- The operands in front of a fault refer to the first identifiers, and without a fault to
all of them. -/
theorem labels_of_readOperands (texts : List String) :
    (readOperands texts).1.filterMap Operand.label? <+: identifiers texts ∧
      ((readOperands texts).2 = none →
        (readOperands texts).1.filterMap Operand.label? = identifiers texts) := by
  induction texts with
  | nil => exact ⟨List.nil_prefix, fun _ => rfl⟩
  | cons text rest ih =>
      rw [readOperands]
      cases read : readOperand text with
      | error cause => exact ⟨List.nil_prefix, fun clear => by cases clear⟩
      | ok operand =>
          dsimp only
          have refers := label?_of_readOperand read
          by_cases identifier : isIdentifier text.toList = true
          · rw [if_pos identifier] at refers
            rw [identifiers_cons_of_pos identifier, List.filterMap_cons_some refers]
            exact ⟨List.cons_prefix_cons.mpr ⟨rfl, ih.1⟩,
              fun clear => congrArg (text :: ·) (ih.2 clear)⟩
          · rw [if_neg identifier] at refers
            rw [identifiers_cons_of_neg identifier, List.filterMap_cons_none refers]
            exact ih

end Source

namespace Statement

/-- A statement mentions the first identifiers among its operands, and all of them unless it
is refused. -/
theorem mentioned_instr (mnemonic : String) (operands : List String) :
    (instr mnemonic operands).meaning.mentioned <+: Source.identifiers operands ∧
      ((∀ mentioned cause, (instr mnemonic operands).meaning ≠ .refused mentioned cause) →
        (instr mnemonic operands).meaning.mentioned = Source.identifiers operands) := by
  rw [meaning]
  split
  · rename_i pseudo read
    have whole := Source.label?_of_readPseudo? read
    exact ⟨whole ▸ List.prefix_rfl, fun _ => whole⟩
  · exact ⟨List.nil_prefix, fun accepted => absurd rfl (accepted _ _)⟩
  · split
    · exact ⟨List.nil_prefix, fun accepted => absurd rfl (accepted _ _)⟩
    · have labels := Source.labels_of_readOperands operands
      split
      · rename_i read
        rw [read] at labels
        exact ⟨labels.1, fun _ => labels.2 rfl⟩
      · rename_i read
        rw [read] at labels
        exact ⟨labels.1, fun accepted => absurd rfl (accepted _ _)⟩

/-- The names that a statement mentions are identifiers, unless it is a definition. -/
theorem isIdentifier_of_mentioned {statement : Statement} {name : String}
    (other : ∀ label, statement.meaning ≠ .define label)
    (listed : name ∈ statement.meaning.mentioned) : isIdentifier name.toList = true := by
  cases statement with
  | label label => exact absurd rfl (other label)
  | word values => cases listed
  | instr mnemonic operands =>
      have among := (mentioned_instr mnemonic operands).1.subset listed
      exact (Source.mem_identifiers.mp among).2

end Statement

end Mips32
