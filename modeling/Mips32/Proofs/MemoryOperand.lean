/-
# Memory operands

An operand with a parenthesis is a memory operand or it is refused. The reader takes the
first opening parenthesis and the last closing one: what is in front of them is the
offset, and what is between them is the base. It does not look behind the closing
parenthesis. So it accepts exactly the texts that begin with the form `off(base)`, and
those of them that go on after it are accepted as well. Where a text ends in a closing
parenthesis, the form is all there is.

Reading an operand in a session creates the label that the operand mentions, if it is one.
A memory operand mentions none, so it leaves the session as it was.
-/
import Mips32.Proofs.Numeral
import Mips32.Proofs.Renaming
import Mips32.Proofs.Spacing

namespace Mips32

/-! ## Characters of literals -/

namespace Literal

/-- The characters that number literals are made of. -/
def uses (c : Char) : Bool :=
  c = '+' || c = '-' || c = '_' || c = 'x' || c = 'X' || (Text.digitIn 16 c).isSome

theorem uses_of_digitIn {radix : Nat} (small : radix ≤ 16) {c : Char}
    (digit : (Text.digitIn radix c).isSome = true) : uses c = true := by
  obtain ⟨value, found⟩ := Option.isSome_iff_exists.mp digit
  obtain ⟨valued, below⟩ := Option.filter_eq_some_iff.mp found
  have hexadecimal : Text.digitIn 16 c = some value :=
    Option.filter_eq_some_iff.mpr
      ⟨valued, decide_eq_true (Nat.lt_of_lt_of_le (of_decide_eq_true below) small)⟩
  simp [uses, hexadecimal]

theorem uses_of_readInt64 {radix : Nat} (small : radix ≤ 16) {text : List Char} {value : Int}
    (read : Text.readInt64 radix text = .ok value) : ∀ c ∈ text, uses c = true := by
  have digits {text : List Char} {total : Nat} (numeral : Text.Numeral radix text total) :
      ∀ c ∈ text, uses c = true := by
    intro c listed
    obtain ⟨digit, written⟩ := numeral.exists_digit listed
    apply uses_of_digitIn small
    rw [(Text.digitIn_eq_some_iff small).mpr written]
    rfl
  cases (Text.readInt64_eq_ok_iff small).mp read with
  | plain numeral => exact digits numeral
  | plus numeral | minus numeral => exact List.forall_mem_cons.mpr ⟨rfl, digits numeral⟩

theorem uses_of_readUnsigned {text : List Char} {value : Int}
    (read : readUnsigned text = some value) : ∀ c ∈ text, uses c = true := by
  rw [readUnsigned] at read
  split at read
  · cases read
  · split at read
    · rename_i digits marked
      split at read
      · cases read
      · have grouped : ∀ c ∈ digits, uses c = true := by
          intro c listed
          by_cases underscore : c = '_'
          · rw [underscore]
            rfl
          · apply uses_of_readInt64 (Nat.le_refl 16) (toOption_eq_some_iff.mp read)
            exact List.mem_filter.mpr ⟨listed, by simpa using underscore⟩
        obtain ⟨mark, isMark, rfl⟩ := Text.exists_mark_of_afterHexMark marked
        have marks : uses mark = true := by
          rcases isMark with rfl | rfl <;> rfl
        exact List.forall_mem_cons.mpr ⟨rfl, List.forall_mem_cons.mpr ⟨marks, grouped⟩⟩
    · exact uses_of_readInt64 (by decide) (toOption_eq_some_iff.mp read)

/-- A literal without the blanks around it is made of characters of literals. -/
theorem uses_of_read? {text : List Char} {value : Int} (read : read? text = some value) :
    ∀ c ∈ Text.trim text, uses c = true := by
  obtain ⟨magnitude, unsigned, -⟩ := Option.map_eq_some_iff.mp read
  have body := uses_of_readUnsigned unsigned
  split at body
  · rename_i rest signed
    rw [signed]
    exact List.forall_mem_cons.mpr ⟨rfl, body⟩
  · exact body

theorem read?_trim (text : List Char) : read? (Text.trim text) = read? text := by
  rw [read?, read?, Text.trim_eq_self (Text.tight_trim text)]

end Literal

theorem Text.mem_trim {text : List Char} {c : Char} (listed : c ∈ text)
    (visible : isBlank c = false) : c ∈ trim text := by
  obtain ⟨lead, trail, before, behind, written⟩ := exists_trim text
  rw [written] at listed
  simpa [before.not_mem visible, behind.not_mem visible] using listed

/-! ## The form of a memory operand -/

/-- A text of the form `off(base)` with `rest` behind it. The offset is a number, or zero if
it is left out, and the base is a register with its dollar sign. Blanks around them do not
count. -/
inductive MemoryText (offset : Int) (base : Reg) (rest : List Char) : List Char → Prop
  | form {off inner : List Char}
      (number : (Text.trim off = [] ∧ offset = 0) ∨ Literal.read? off = some offset)
      (dollar : (Text.trim inner).head? = some '$')
      (register : Reg.read (String.ofList (Text.trim inner)) = .ok base) :
    MemoryText offset base rest (off ++ '(' :: (inner ++ ')' :: rest))

/-- There is no parenthesis in an offset. -/
theorem not_mem_offset {off : List Char} {offset : Int}
    (number : (Text.trim off = [] ∧ offset = 0) ∨ Literal.read? off = some offset) :
    '(' ∉ off := by
  intro listed
  have visible := Text.mem_trim listed rfl
  rcases number with ⟨nothing, -⟩ | read
  · rw [nothing] at visible
    cases visible
  · have used := Literal.uses_of_read? read '(' visible
    exact absurd used (by decide)

theorem MemoryText.mem {offset : Int} {base : Reg} {rest text : List Char}
    (form : MemoryText offset base rest text) : '(' ∈ text := by
  cases form
  simp

theorem MemoryText.getLast? {offset : Int} {base : Reg} {rest text : List Char}
    (form : MemoryText offset base rest text) : text.getLast? = (')' :: rest).getLast? := by
  cases form with
  | @form off inner number dollar register =>
      have regrouped : off ++ '(' :: (inner ++ ')' :: rest) =
          (off ++ '(' :: inner) ++ ')' :: rest := by
        simp
      rw [regrouped, List.getLast?_append,
        List.getLast?_eq_some_getLast (List.cons_ne_nil ')' rest), Option.some_or]

/-- Nothing is behind the last closing parenthesis of a text that ends in one. -/
theorem MemoryText.rest_eq_nil {offset : Int} {base : Reg} {rest text : List Char}
    (form : MemoryText offset base rest text) (last : ')' ∉ rest)
    (closed : text.getLast? = some ')') : rest = [] := by
  rw [form.getLast?] at closed
  cases rest with
  | nil => rfl
  | cons c more =>
      rw [List.getLast?_cons_cons] at closed
      exact absurd (List.mem_of_getLast? closed) last

namespace Source

theorem readReg_eq_ok_iff {text : String} {reg : Reg} :
    readReg text = .ok reg ↔ text.toList.head? = some '$' ∧ Reg.read text = .ok reg := by
  rw [readReg]
  split
  · rename_i dollar
    rw [mapError_eq_ok_iff, and_iff_right dollar]
  · rename_i noDollar
    exact ⟨nofun, fun both => absurd both.1 noDollar⟩

theorem readNumber_eq_ok_iff {text : String} {value : Int} :
    readNumber text = .ok value ↔ Literal.read? text.toList = some value := by
  rw [readNumber]
  cases Literal.read? text.toList with
  | none => simp
  | some found => simp

/-- The offset that the reader finds in front of the parentheses. -/
theorem readOffset_eq_ok_iff {off : List Char} {offset : Int} :
    (if (Text.trim off).isEmpty then .ok 0 else readNumber (String.ofList (Text.trim off))) =
        .ok offset ↔
      (Text.trim off = [] ∧ offset = 0) ∨ Literal.read? off = some offset := by
  rw [← Literal.read?_trim]
  split
  · rename_i nothing
    rw [List.isEmpty_iff.mp nothing]
    have unread : Literal.read? [] = none := rfl
    simp [unread, eq_comm]
  · rename_i something
    rw [List.isEmpty_iff] at something
    rw [readNumber_eq_ok_iff, String.toList_ofList]
    simp [something]

/-- The reader takes a text apart at the first opening and the last closing
parenthesis. -/
theorem readMemory_eq_ok_iff_of_parentheses {text : String} {off inner rest : List Char}
    (written : text.toList = off ++ '(' :: (inner ++ ')' :: rest)) (first : '(' ∉ off)
    (last : ')' ∉ rest) {offset : Int} {base : Reg} :
    readMemory text = .ok (.memory offset base) ↔
      ((Text.trim off = [] ∧ offset = 0) ∨ Literal.read? off = some offset) ∧
        (Text.trim inner).head? = some '$' ∧
        Reg.read (String.ofList (Text.trim inner)) = .ok base := by
  have opening : text.toList.takeWhile (· ≠ '(') = off ∧
      text.toList.dropWhile (· ≠ '(') = '(' :: (inner ++ ')' :: rest) := by
    rw [written]
    exact Text.span_at first _
  have behind : (text.toList.dropWhile (· ≠ '(')).drop 1 = inner ++ ')' :: rest := by
    rw [opening.2]
    rfl
  have closing : (inner ++ ')' :: rest).reverse.dropWhile (· ≠ ')') = ')' :: inner.reverse := by
    have reversed : (inner ++ ')' :: rest).reverse = rest.reverse ++ ')' :: inner.reverse := by
      simp
    rw [reversed]
    exact (Text.span_at (mt List.mem_reverse.mp last) _).2
  have taken : readMemory text = .ok (.memory offset base) ↔
      (if (Text.trim off).isEmpty then .ok 0
        else readNumber (String.ofList (Text.trim off))) = .ok offset ∧
      readReg (String.ofList (Text.trim inner)) = .ok base := by
    unfold readMemory
    dsimp only
    rw [opening.1, behind, closing]
    dsimp only
    rw [List.reverse_reverse]
    split
    · simpa [bind_eq_ok_iff, pure, Except.pure] using and_comm
    · simp [bind_eq_ok_iff, pure, Except.pure]
  rw [taken, readOffset_eq_ok_iff, readReg_eq_ok_iff, String.toList_ofList]

/-- A text without a closing parenthesis behind an opening one is refused. -/
theorem readMemory_of_unclosed {text : String} {off inner : List Char}
    (written : text.toList = off ++ '(' :: inner) (first : '(' ∉ off) (unclosed : ')' ∉ inner) :
    readMemory text = .error (.badMemoryOperand text) := by
  have opening : text.toList.dropWhile (· ≠ '(') = '(' :: inner := by
    rw [written]
    exact (Text.span_at first _).2
  have behind : (text.toList.dropWhile (· ≠ '(')).drop 1 = inner := by
    rw [opening]
    rfl
  have nothing : (inner.reverse ++ []).dropWhile (· ≠ ')') = [] := by
    apply (Text.span_append _ _).2
    · exact fun c listed =>
        decide_eq_true fun same => unclosed (same ▸ List.mem_reverse.mp listed)
    · simp
  rw [List.append_nil] at nothing
  unfold readMemory
  dsimp only
  rw [behind, nothing]

/-- A text with a parenthesis is taken apart at the first opening one and, if there is one
behind it, at the last closing one. -/
theorem exists_parentheses {text : List Char} (opened : '(' ∈ text) :
    ∃ off inner, text = off ++ '(' :: inner ∧ '(' ∉ off ∧
      (')' ∉ inner ∨ ∃ base rest, inner = base ++ ')' :: rest ∧ ')' ∉ rest) := by
  obtain ⟨off, inner, rfl, first⟩ := List.eq_append_cons_of_mem opened
  refine ⟨off, inner, rfl, first, ?_⟩
  by_cases closed : ')' ∈ inner
  · obtain ⟨rest, base, reversed, last⟩ :=
      List.eq_append_cons_of_mem (List.mem_reverse.mpr closed)
    refine .inr ⟨base.reverse, rest.reverse, ?_, mt List.mem_reverse.mp last⟩
    rw [← List.reverse_reverse inner, reversed]
    simp
  · exact .inl closed

/-- What the reader accepts: the form of a memory operand with anything behind it in which
there is no closing parenthesis. -/
theorem readMemory_eq_ok_iff {text : String} (opened : '(' ∈ text.toList) {offset : Int}
    {base : Reg} :
    readMemory text = .ok (.memory offset base) ↔
      ∃ rest, ')' ∉ rest ∧ MemoryText offset base rest text.toList := by
  constructor
  · intro read
    obtain ⟨off, inner, written, first, unclosed | ⟨between, rest, rfl, last⟩⟩ :=
      exists_parentheses opened
    · rw [readMemory_of_unclosed written first unclosed] at read
      cases read
    · obtain ⟨number, dollar, register⟩ :=
        (readMemory_eq_ok_iff_of_parentheses written first last).mp read
      refine ⟨rest, last, ?_⟩
      rw [written]
      exact .form number dollar register
  · rintro ⟨rest, last, form⟩
    generalize written : text.toList = whole at form
    obtain ⟨number, dollar, register⟩ := form
    exact (readMemory_eq_ok_iff_of_parentheses written (not_mem_offset number) last).mpr
      ⟨number, dollar, register⟩

/-- A text without a parenthesis is no memory operand. -/
theorem readOperand_ne_memory {text : String} (unopened : '(' ∉ text.toList) {offset : Int}
    {base : Reg} : readOperand text ≠ .ok (.memory offset base) := by
  intro read
  rw [readOperand, if_neg unopened] at read
  split at read
  · split at read
    · obtain ⟨reg, -, other⟩ := map_eq_ok_iff.mp read
      cases other
    · obtain ⟨reg, -, other⟩ := map_eq_ok_iff.mp read
      cases other
  · split at read
    · cases read
    · split at read
      · cases read
      · cases read

end Source

/-! ## Operands in a session -/

namespace SourceSession

/-- Reads an operand, and creates the label it mentions if that is new. -/
def operand (source : SourceSession) (text : String) :
    SourceSession × Except Cause (Operand Label) :=
  match Source.readOperand text with
  | .error cause => (source, .error cause)
  | .ok operand =>
    let after := operand.label?.toList.foldl intern source
    (after, .ok (operand.map after.handle))

/-- Reads operands one after another, up to the first fault. -/
def operands (source : SourceSession) :
    List String → SourceSession × Except Cause (List (Operand Label))
  | [] => (source, .ok [])
  | text :: rest =>
    match source.operand text with
    | (after, .error cause) => (after, .error cause)
    | (after, .ok operand) => ((after.operands rest).1, (after.operands rest).2.map (operand :: ·))

/-- Appends the instruction of an entry with operands that were read in a session. -/
def emitEntry (entry : Entry) : SourceSession × Except Cause (List (Operand Label)) →
    SourceSession × Except Diagnostic Unit
  | (source, .error cause) => (source, .error ⟨[], cause⟩)
  | (source, .ok operands) =>
    match entry.instruction source.session.pc operands with
    | .ok instr => ({ source with session := source.session.emit instr }, .ok ())
    | .error error => (source, .error ⟨[], .emission error⟩)

/-- It makes no difference whether labels are created while operands are read or
afterwards. -/
theorem operands_eq (source : SourceSession) (texts : List String) :
    (source.operands texts).1 =
        ((Source.readOperands texts).1.filterMap Operand.label?).foldl intern source ∧
      ((Source.readOperands texts).2 = none → (source.operands texts).2 =
        .ok ((Source.readOperands texts).1.map (·.map (source.operands texts).1.handle))) ∧
      ∀ cause, (Source.readOperands texts).2 = some cause →
        (source.operands texts).2 = .error cause := by
  induction texts generalizing source with
  | nil =>
      refine ⟨rfl, fun _ => rfl, ?_⟩
      intro cause faulty
      cases faulty
  | cons text rest ih =>
      rw [operands, operand, Source.readOperands]
      cases read : Source.readOperand text with
      | error cause =>
          refine ⟨rfl, ?_, ?_⟩
          · intro faultless
            cases faultless
          · intro other same
            cases same
            rfl
      | ok first =>
          dsimp only
          generalize middle : first.label?.toList.foldl intern source = after
          obtain ⟨state, values, faults⟩ := ih after
          -- The label of the first operand is known from here on and keeps its handle.
          have kept : first.map after.handle = first.map (after.operands rest).1.handle := by
            apply Operand.map_congr
            intro name mentioned
            obtain ⟨label, known⟩ := (mentioned_foldl_intern source first.label?.toList).known
              name (Option.mem_toList.mpr mentioned)
            rw [middle] at known
            rw [state, handle_of_lookup known,
              handle_of_lookup ((mentioned_foldl_intern after _).keeps known)]
          refine ⟨?_, ?_, ?_⟩
          · rw [state, ← middle, ← List.foldl_append]
            congr 1
            cases label : first.label? <;> simp [label]
          · intro faultless
            rw [values faultless, kept]
            rfl
          · intro cause faulty
            rw [faults cause faulty]
            rfl

/-- A statement with an entry of the catalog reads its operands one after another and then
appends the instruction. -/
theorem statement_eq_emitEntry {mnemonic : String} {texts : List String} {entry : Entry}
    (noPseudo : Source.readPseudo? mnemonic texts = none)
    (found : Entry.find? mnemonic = some entry) (source : SourceSession) :
    source.statement (.instr mnemonic texts) = emitEntry entry (source.operands texts) := by
  obtain ⟨state, values, faults⟩ := source.operands_eq texts
  rw [SourceSession.statement, Statement.meaning, noPseudo, found]
  dsimp only
  cases read : Source.readOperands texts with
  | mk operands fault =>
      rw [read] at state values faults
      have together : source.operands texts =
          ((source.operands texts).1, (source.operands texts).2) := rfl
      cases fault with
      | none =>
          rw [together, values rfl]
          dsimp only [Meaning.mentioned]
          rw [← state]
          rfl
      | some cause =>
          rw [together, faults cause rfl]
          dsimp only [Meaning.mentioned]
          rw [← state]
          rfl

/-! ## Memory operands -/

theorem operand_eq_memory_iff {source : SourceSession} {text : String} {offset : Int}
    {base : Reg} :
    (source.operand text).2 = .ok (.memory offset base) ↔
      Source.readOperand text = .ok (.memory offset base) := by
  rw [operand]
  cases Source.readOperand text with
  | error cause => simp
  | ok operand =>
      cases operand <;> simp [Operand.map]

/-- An operand is a memory operand exactly if it begins with the form `off(base)`, up to its
last closing parenthesis. What is behind that parenthesis is ignored; where the text ends
there, the form is the whole text. Any other operand with an opening parenthesis is refused,
and in either case the session is as it was. -/
theorem operand_reads_memory (source : SourceSession) (text : String) :
    (∀ offset base, (source.operand text).2 = .ok (.memory offset base) ↔
      ∃ rest, ')' ∉ rest ∧ MemoryText offset base rest text.toList) ∧
    (text.toList.getLast? = some ')' → ∀ offset base,
      (source.operand text).2 = .ok (.memory offset base) ↔
        MemoryText offset base [] text.toList) ∧
    ('(' ∈ text.toList → (source.operand text).1 = source ∧
      ∀ operand, (source.operand text).2 = .ok operand →
        ∃ offset base, operand = .memory offset base) := by
  have accepts (offset : Int) (base : Reg) :
      (source.operand text).2 = .ok (.memory offset base) ↔
        ∃ rest, ')' ∉ rest ∧ MemoryText offset base rest text.toList := by
    rw [operand_eq_memory_iff]
    by_cases opened : '(' ∈ text.toList
    · rw [Source.readOperand, if_pos opened, Source.readMemory_eq_ok_iff opened]
    · constructor
      · intro read
        exact absurd read (Source.readOperand_ne_memory opened)
      · rintro ⟨rest, -, form⟩
        exact absurd form.mem opened
  refine ⟨accepts, ?_, ?_⟩
  · intro closed offset base
    rw [accepts]
    constructor
    · rintro ⟨rest, last, form⟩
      obtain rfl := form.rest_eq_nil last closed
      exact form
    · exact fun form => ⟨[], List.not_mem_nil, form⟩
  · intro opened
    rw [operand, Source.readOperand, if_pos opened]
    cases read : Source.readMemory text with
    | error cause =>
        refine ⟨rfl, ?_⟩
        intro operand refused
        cases refused
    | ok operand =>
        obtain ⟨offset, base, rfl⟩ := Source.readMemory_eq_ok read
        refine ⟨rfl, ?_⟩
        intro operand same
        cases same
        exact ⟨offset, base, rfl⟩

/-- The form `off(base)` is not all that is accepted. -/
theorem operand_accepts_trailing_text :
    ((new {}).operand "4($sp)x").2 = .ok (.memory 4 ⟨29⟩) ∧
      ¬ MemoryText 4 ⟨29⟩ [] "4($sp)x".toList := by
  refine ⟨toOption_eq_some_iff.mp (by decide +kernel), ?_⟩
  intro form
  exact absurd form.getLast? (by decide +kernel)

end SourceSession

end Mips32
