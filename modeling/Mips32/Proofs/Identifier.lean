/-
# What an identifier can be read as

The operands of a statement are told apart by their characters: a parenthesis, a dollar
sign, a digit or a sign. An identifier has none of these where it would count, so
wherever an operand is read an identifier is the name of a label or is refused. It is
never a number, a register or a memory operand.
-/
import Mips32.Source.Meaning
import Mips32.Proofs.Spacing

namespace Mips32

/-! ## Characters -/

theorem code_of_isAlpha {c : Char} (letter : c.isAlpha = true) :
    65 ≤ c.toNat ∧ c.toNat ≤ 122 := by
  rcases Bool.or_eq_true_iff.mp letter with upper | lower
  · obtain ⟨least, greatest⟩ := of_decide_eq_true upper
    have least : 65 ≤ c.toNat := UInt32.le_iff_toNat_le.mp least
    have greatest : c.toNat ≤ 90 := UInt32.le_iff_toNat_le.mp greatest
    omega
  · obtain ⟨least, greatest⟩ := Bool.and_eq_true_iff.mp lower
    have least : 97 ≤ c.toNat := UInt32.le_iff_toNat_le.mp (of_decide_eq_true least)
    have greatest : c.toNat ≤ 122 := UInt32.le_iff_toNat_le.mp (of_decide_eq_true greatest)
    omega

theorem code_of_isDigit {c : Char} (digit : c.isDigit = true) :
    48 ≤ c.toNat ∧ c.toNat ≤ 57 := by
  obtain ⟨least, greatest⟩ := Bool.and_eq_true_iff.mp digit
  exact ⟨UInt32.le_iff_toNat_le.mp (of_decide_eq_true least),
    UInt32.le_iff_toNat_le.mp (of_decide_eq_true greatest)⟩

theorem code_of_continuesIdentifier {c : Char} (continues : continuesIdentifier c = true) :
    46 ≤ c.toNat ∧ c.toNat ≤ 122 := by
  simp only [continuesIdentifier, Char.isAlphanum, Bool.or_eq_true, decide_eq_true_eq] at continues
  rcases continues with ((letter | digit) | rfl) | rfl
  · have code := code_of_isAlpha letter
    omega
  · have code := code_of_isDigit digit
    omega
  · decide
  · decide

theorem code_of_startsIdentifier {c : Char} (starts : startsIdentifier c = true) :
    c.toNat = 46 ∨ 65 ≤ c.toNat := by
  simp only [startsIdentifier, Bool.or_eq_true, decide_eq_true_eq] at starts
  rcases starts with (letter | rfl) | rfl
  · exact .inr (code_of_isAlpha letter).1
  · decide
  · decide

theorem continuesIdentifier_of_starts {c : Char} (starts : startsIdentifier c = true) :
    continuesIdentifier c = true := by
  simp only [startsIdentifier, continuesIdentifier, Char.isAlphanum, Bool.or_eq_true] at starts ⊢
  exact starts.imp_left (Or.imp_left .inl)

/-- An identifier does not start with a decimal digit. -/
theorem digitIn_of_startsIdentifier {c : Char} (starts : startsIdentifier c = true) :
    Text.digitIn 10 c = none := by
  have code := code_of_startsIdentifier starts
  rw [Text.digitIn, Text.digitValue]
  split
  · rename_i decimal
    obtain ⟨least, greatest⟩ := decimal
    have least : 48 ≤ c.toNat := least
    have greatest : c.toNat ≤ 57 := greatest
    omega
  · split
    · simp
    · split <;> simp

theorem cons_ne_of_startsIdentifier {c other : Char} (starts : startsIdentifier c = true)
    (foreign : startsIdentifier other = false) (rest more : List Char) :
    c :: rest ≠ other :: more := by
  intro same
  rw [(List.cons.inj same).1, foreign] at starts
  cases starts

theorem exists_start_of_identifier {name : List Char} (identifier : isIdentifier name = true) :
    ∃ c rest, name = c :: rest ∧ startsIdentifier c = true := by
  cases name with
  | nil => cases identifier
  | cons c rest => exact ⟨c, rest, rfl, (Bool.and_eq_true_iff.mp identifier).1⟩

theorem continuesIdentifier_of_mem {name : List Char} (identifier : isIdentifier name = true)
    {c : Char} (listed : c ∈ name) : continuesIdentifier c = true := by
  cases name with
  | nil => cases listed
  | cons first rest =>
      obtain ⟨starts, continues⟩ := Bool.and_eq_true_iff.mp identifier
      rcases List.mem_cons.mp listed with rfl | later
      · exact continuesIdentifier_of_starts starts
      · exact List.all_eq_true.mp continues c later

/-- An identifier has characters of identifiers only. -/
theorem not_mem_of_identifier {name : List Char} (identifier : isIdentifier name = true)
    {c : Char} (foreign : continuesIdentifier c = false) : c ∉ name := by
  intro listed
  rw [continuesIdentifier_of_mem identifier listed] at foreign
  cases foreign

theorem head?_ne_of_identifier {name : List Char} (identifier : isIdentifier name = true)
    {c : Char} (foreign : continuesIdentifier c = false) : ¬ name.head? = some c := by
  intro first
  exact not_mem_of_identifier identifier foreign (List.mem_of_head? first)

theorem solid_of_identifier {name : List Char} (identifier : isIdentifier name = true) :
    ∀ c ∈ name, Text.isBlank c = false := by
  intro c listed
  have code := code_of_continuesIdentifier (continuesIdentifier_of_mem identifier listed)
  simp only [Text.isBlank, Bool.or_eq_false_iff, Bool.and_eq_false_imp, decide_eq_true_eq,
    decide_eq_false_iff_not, beq_eq_false_iff_ne, ne_eq]
  omega

/-! ## Readings -/

theorem readInt64_of_startsIdentifier {c : Char} (starts : startsIdentifier c = true)
    (rest : List Char) : (Text.readInt64 10 (c :: rest)).toOption = none := by
  have refused (greatest : Nat) (beyond : Text.NumeralFault) :
      Text.readDigits 10 greatest beyond 0 (c :: rest) = .error .invalidDigit := by
    rw [Text.readDigits, digitIn_of_startsIdentifier starts]
  unfold Text.readInt64
  split
  · rfl
  · rfl
  · rfl
  · exact absurd ‹_› (cons_ne_of_startsIdentifier starts rfl _ _)
  · exact absurd ‹_› (cons_ne_of_startsIdentifier starts rfl _ _)
  · rw [refused]
    rfl

/-- An identifier is no number. -/
theorem Literal.read?_of_identifier {text : List Char} (identifier : isIdentifier text = true) :
    Literal.read? text = none := by
  have tight := Text.trim_eq_self (Text.tight_of_solid (solid_of_identifier identifier))
  obtain ⟨c, rest, rfl, starts⟩ := exists_start_of_identifier identifier
  have other {first : Char} (foreign : startsIdentifier first = false) (more : List Char) :
      c :: rest ≠ first :: more :=
    cons_ne_of_startsIdentifier starts foreign rest more
  have unsigned : Literal.startsWithSign (c :: rest) = false := by
    unfold Literal.startsWithSign
    split
    · exact absurd ‹_› (other rfl _)
    · exact absurd ‹_› (other rfl _)
    · rfl
  have unmarked : Text.afterHexMark (c :: rest) = none := by
    unfold Text.afterHexMark
    split
    · exact absurd ‹_› (other rfl _)
    · exact absurd ‹_› (other rfl _)
    · rfl
  have unread : Literal.readUnsigned (c :: rest) = none := by
    rw [Literal.readUnsigned, unsigned, unmarked]
    exact readInt64_of_startsIdentifier starts rest
  have whole : Literal.splitMinus (c :: rest) = (false, c :: rest) := by
    unfold Literal.splitMinus
    split
    · exact absurd ‹_› (other rfl _)
    · rfl
  rw [Literal.read?, tight, whole]
  dsimp only
  rw [unread]
  rfl

end Mips32
