/-
# Addresses and literals

A start address and a number of assembly text have readers of their own. One gives an
unsigned number of 32 bits and the other a signed number of 64 bits, one allows a plus sign
in front and the other a minus sign, and only the second looks for a sign behind the
hexadecimal mark. But they find the same digits in a text, in the same radix, and a row of
digits stands for one number. So they never give different numbers, and on texts without
signs each of them reads what the other reads, as far as 32 bits reach.
-/
import Mips32.Literal
import Mips32.Proofs.NumberLiteral
import Mips32.Proofs.Numeral
import Mips32.Proofs.Spacing

namespace Mips32.Literal

open Text

/-! ## The digits of a text -/

/-- The radix of the digits in a text. -/
def radixOf (body : List Char) : Nat :=
  if (afterHexMark body).isSome then 16 else 10

/-- The digits in a text: what is behind a hexadecimal mark, without underscores, or the
whole text if it has no mark. -/
def digitsOf (body : List Char) : List Char :=
  ((afterHexMark body).map ungrouped).getD body

theorem radixOf_le (body : List Char) : radixOf body ≤ 16 := by
  rw [radixOf]
  split <;> decide

theorem mem_of_afterHexMark {body digits : List Char} (marked : afterHexMark body = some digits)
    {c : Char} (listed : c ∈ digits) : c ∈ body := by
  obtain ⟨mark, -, rfl⟩ := exists_mark_of_afterHexMark marked
  simp [listed]

theorem mem_of_mem_digitsOf {body : List Char} {c : Char} (listed : c ∈ digitsOf body) :
    c ∈ body := by
  cases marked : afterHexMark body with
  | none => simpa [digitsOf, marked] using listed
  | some digits =>
      rw [digitsOf, marked] at listed
      exact mem_of_afterHexMark marked (List.mem_of_mem_filter listed)

/-! ## Reading the digits -/

/-- An address is what the digits of a text stand for. -/
theorem readAddress_eq_ok_iff {text : List Char} {address : UInt32} :
    readAddress text = .ok address ↔
      UnsignedNumeral (radixOf (trim text)) (digitsOf (trim text)) address.toNat := by
  have digits : readAddress text =
      (readNat (radixOf (trim text)) 0xFFFFFFFF (digitsOf (trim text))).map UInt32.ofNat := by
    rw [readAddress, radixOf, digitsOf]
    cases afterHexMark (trim text) <;> rfl
  rw [digits, map_eq_ok_iff]
  constructor
  · rintro ⟨value, read, rfl⟩
    obtain ⟨numeral, fits⟩ := (readNat_eq_ok_iff (radixOf_le _)).mp read
    rwa [UInt32.toNat_ofNat_of_lt' (Nat.lt_succ_of_le fits)]
  · intro numeral
    refine ⟨address.toNat, (readNat_eq_ok_iff (radixOf_le _)).mpr ⟨numeral, ?_⟩,
      UInt32.ofNat_toNat⟩
    exact Nat.le_of_lt_succ address.toNat_lt

/-- A literal is refused for a sign in front or behind the mark, and otherwise its digits are
read. -/
theorem readUnsigned_eq (body : List Char) :
    readUnsigned body =
      if startsWithSign body || (afterHexMark body).any startsWithSign then none
      else (readInt64 (radixOf body) (digitsOf body)).toOption := by
  rw [readUnsigned, radixOf, digitsOf]
  cases startsWithSign body with
  | true => rfl
  | false => cases afterHexMark body <;> rfl

theorem signedNumeral_of_readUnsigned {body : List Char} {value : Int}
    (read : readUnsigned body = some value) :
    SignedNumeral (radixOf body) (digitsOf body) value := by
  rw [readUnsigned_eq] at read
  split at read
  · cases read
  · rwa [toOption_eq_some_iff, readInt64_eq_ok_iff (radixOf_le body)] at read

/-- No text without signs is refused for a sign. -/
theorem readUnsigned_eq_some_iff_of_signFree {body : List Char} (noPlus : '+' ∉ body)
    (noMinus : '-' ∉ body) {value : Int} :
    readUnsigned body = some value ↔ SignedNumeral (radixOf body) (digitsOf body) value := by
  have signFree {text : List Char} (inside : ∀ c ∈ text, c ∈ body) :
      startsWithSign text = false :=
    startsWithSign_eq_false (fun first => noPlus (inside _ (List.mem_of_head? first)))
      (fun first => noMinus (inside _ (List.mem_of_head? first)))
  have behind : (afterHexMark body).any startsWithSign = false := by
    cases marked : afterHexMark body with
    | none => rfl
    | some digits => exact signFree fun c => mem_of_afterHexMark marked
  rw [readUnsigned_eq, signFree fun c => id, behind, ← readInt64_eq_ok_iff (radixOf_le body)]
  exact toOption_eq_some_iff

/-! ## The two readers -/

/-- No address has a minus sign in front. -/
theorem trim_ne_minus_of_readAddress {text : List Char} {address : UInt32}
    (read : readAddress text = .ok address) (rest : List Char) : trim text ≠ '-' :: rest := by
  intro written
  have numeral := readAddress_eq_ok_iff.mp read
  rw [written] at numeral
  exact numeral.not_mem (radixOf_le _) (by decide) (digitIn_minus _) List.mem_cons_self

/-- Where a text is read as an address and as a literal, both readers give the same number.
A text without signs is read as an address exactly if it is read as a literal whose number has
at most 32 bits, and it is the same number. -/
theorem address_agrees_with_literal (text : List Char) :
    (∀ (address : UInt32) (value : Int), readAddress text = .ok address →
      read? text = some value → value = address.toNat) ∧
    ('+' ∉ text → '-' ∉ text → ∀ value : Int,
      (∃ address : UInt32, readAddress text = .ok address ∧ (address.toNat : Int) = value) ↔
        read? text = some value ∧ value < 0x100000000) := by
  constructor
  · intro address value asAddress asLiteral
    rw [read?_of_not_minus (trim_ne_minus_of_readAddress asAddress)] at asLiteral
    exact (signedNumeral_of_readUnsigned asLiteral).eq_of_unsigned (radixOf_le _)
      (readAddress_eq_ok_iff.mp asAddress)
  · intro noPlus noMinus value
    replace noPlus : '+' ∉ trim text := fun listed => noPlus (mem_of_mem_trim listed)
    replace noMinus : '-' ∉ trim text := fun listed => noMinus (mem_of_mem_trim listed)
    have unsigned (rest : List Char) : trim text ≠ '-' :: rest :=
      fun written => noMinus (written ▸ List.mem_cons_self)
    rw [read?_of_not_minus unsigned, readUnsigned_eq_some_iff_of_signFree noPlus noMinus,
      SignedNumeral.iff_unsigned (fun listed => noPlus (mem_of_mem_digitsOf listed))
        fun listed => noMinus (mem_of_mem_digitsOf listed)]
    constructor
    · rintro ⟨address, read, rfl⟩
      have bounded : address.toNat < 0x100000000 := address.toNat_lt
      exact ⟨⟨address.toNat, readAddress_eq_ok_iff.mp read, by omega, rfl⟩, by omega⟩
    · rintro ⟨⟨total, numeral, -, rfl⟩, bounded⟩
      have kept : (UInt32.ofNat total).toNat = total :=
        UInt32.toNat_ofNat_of_lt' (Int.ofNat_lt.mp bounded)
      exact ⟨UInt32.ofNat total, readAddress_eq_ok_iff.mpr (kept.symm ▸ numeral),
        congrArg Nat.cast kept⟩

/-- A late plus sign is read alike, the greatest address is a literal with blanks around it,
and the literal that is one more is no address. -/
theorem address_agrees_with_literal_at_edge :
    (readAddress "0x_+BFC0_0000".toList = .ok 0xBFC00000 ∧
      read? "0x_+BFC0_0000".toList = some 0xBFC00000 ∧
      (0xBFC00000 : Int) = (0xBFC00000 : UInt32).toNat) ∧
    (read? " 0XfFFF_FFFF\t".toList = some 0xFFFFFFFF ∧
      ∃ address : UInt32, readAddress " 0XfFFF_FFFF\t".toList = .ok address ∧
        (address.toNat : Int) = 0xFFFFFFFF) ∧
    read? "04294967296".toList = some 0x100000000 ∧
      ¬ ∃ address : UInt32, readAddress "04294967296".toList = .ok address ∧
        (address.toNat : Int) = 0x100000000 := by
  have late : readAddress "0x_+BFC0_0000".toList = .ok 0xBFC00000 :=
    toOption_eq_some_iff.mp (by decide +kernel)
  have lateLiteral : read? "0x_+BFC0_0000".toList = some 0xBFC00000 := by decide +kernel
  have greatest : read? " 0XfFFF_FFFF\t".toList = some 0xFFFFFFFF := by decide +kernel
  have more : read? "04294967296".toList = some 0x100000000 := by decide +kernel
  refine ⟨⟨late, lateLiteral, ?_⟩, ⟨greatest, ?_⟩, more, fun read => ?_⟩
  · exact (address_agrees_with_literal _).1 _ _ late lateLiteral
  · exact ((address_agrees_with_literal _).2 (by decide +kernel) (by decide +kernel) _).mpr
      ⟨greatest, by decide⟩
  · have bounded := ((address_agrees_with_literal _).2 (by decide +kernel) (by decide +kernel)
      _).mp read
    exact absurd bounded.2 (by decide)

end Mips32.Literal
