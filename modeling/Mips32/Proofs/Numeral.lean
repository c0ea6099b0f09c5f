/-
# What numerals stand for

A numeral is a row of digits, most significant first, and stands for the positional value
of its digits. A reader goes through the row from left to right and gives up as soon as the
value is out of bounds. Another digit never makes the value smaller, so giving up early
comes to the same as looking at the value of the whole row, whatever its length and however
many zeros it starts with.
-/
import Mathlib.Data.List.Forall2
import Mathlib.Data.Nat.Digits.Defs
import Mips32.Text.Numeral
import Mips32.Proofs.Outcome

namespace Mips32.Text

/-! ## Digits -/

/-- A character writes a digit of the radix, in lower or in upper case. -/
def WritesDigit (radix : Nat) (c : Char) (digit : Nat) : Prop :=
  digit < radix ∧ (c = Nat.digitChar digit ∨ c = (Nat.digitChar digit).toUpper)

theorem digitValue_digitChar {digit : Nat} (small : digit < 16) :
    digitValue (Nat.digitChar digit) = some digit ∧
      digitValue (Nat.digitChar digit).toUpper = some digit := by
  have all : ∀ digit < 16, digitValue (Nat.digitChar digit) = some digit ∧
      digitValue (Nat.digitChar digit).toUpper = some digit := by
    decide
  exact all digit small

theorem digitChar_of_digitValue {c : Char} {digit : Nat} (small : digit < 16)
    (value : digitValue c = some digit) :
    c = Nat.digitChar digit ∨ c = (Nat.digitChar digit).toUpper := by
  have coded {code : Nat} (same : c.toNat = code) : c = Char.ofNat code := by
    rw [← same, Char.ofNat_toNat]
  rw [digitValue] at value
  split at value
  · rename_i range
    have least : 48 ≤ c.toNat := range.1
    have greatest : c.toNat ≤ 57 := range.2
    have offset : c.toNat - 48 = digit := Option.some.inj value
    have decimal : ∀ digit < 10, Char.ofNat (digit + 48) = Nat.digitChar digit := by decide
    rw [← decimal digit (by omega)]
    exact .inl (coded (by omega))
  · split at value
    · rename_i range
      have least : 97 ≤ c.toNat := range.1
      have offset : c.toNat - 97 + 10 = digit := Option.some.inj value
      have lower : ∀ digit < 16, 10 ≤ digit → Char.ofNat (digit + 87) = Nat.digitChar digit := by
        decide
      rw [← lower digit small (by omega)]
      exact .inl (coded (by omega))
    · split at value
      · rename_i range
        have least : 65 ≤ c.toNat := range.1
        have offset : c.toNat - 65 + 10 = digit := Option.some.inj value
        have upper : ∀ digit < 16, 10 ≤ digit →
            Char.ofNat (digit + 55) = (Nat.digitChar digit).toUpper := by
          decide
        rw [← upper digit small (by omega)]
        exact .inr (coded (by omega))
      · cases value

theorem digitIn_eq_some_iff {radix : Nat} (small : radix ≤ 16) {c : Char} {digit : Nat} :
    digitIn radix c = some digit ↔ WritesDigit radix c digit := by
  rw [digitIn, Option.filter_eq_some_iff, WritesDigit, decide_eq_true_iff]
  constructor
  · rintro ⟨value, below⟩
    exact ⟨below, digitChar_of_digitValue (by omega) value⟩
  · rintro ⟨below, rfl | rfl⟩
    · exact ⟨(digitValue_digitChar (by omega)).1, below⟩
    · exact ⟨(digitValue_digitChar (by omega)).2, below⟩

/-! ## Rows of digits -/

/-- A numeral and the number it stands for. -/
inductive Numeral (radix : Nat) : List Char → Nat → Prop
  | row {text : List Char} {digits : List Nat} (filled : text ≠ [])
      (written : List.Forall₂ (WritesDigit radix) text digits) :
    Numeral radix text (Nat.ofDigits radix digits.reverse)

/-- The value of a row that begins with a value already read takes in its next digit. -/
theorem ofDigits_next (radix value digit : Nat) (digits : List Nat) :
    Nat.ofDigits radix ((digit :: digits).reverse ++ [value]) =
      Nat.ofDigits radix (digits.reverse ++ [value * radix + digit]) := by
  have pair : Nat.ofDigits radix ([digit] ++ [value]) = value * radix + digit := by
    simp [Nat.ofDigits_cons, Nat.mul_comm radix value, Nat.add_comm digit]
  rw [List.reverse_cons, List.append_assoc, Nat.ofDigits_append, pair, Nat.ofDigits_append,
    Nat.ofDigits_singleton]

/-- More digits do not make a value smaller. -/
theorem le_ofDigits {radix : Nat} (positive : 0 < radix) (value : Nat) (digits : List Nat) :
    value ≤ Nat.ofDigits radix (digits.reverse ++ [value]) := by
  rw [Nat.ofDigits_append, Nat.ofDigits_singleton]
  have scaled : value ≤ radix ^ digits.reverse.length * value :=
    Nat.le_mul_of_pos_left value (Nat.pow_pos positive)
  omega

/-- Reading on from a value succeeds exactly on a row of digits whose value is within the
bound. -/
theorem readDigits_eq_ok_iff {radix : Nat} (small : radix ≤ 16) {greatest value total : Nat}
    {beyond : NumeralFault} {text : List Char} (within : value ≤ greatest) :
    readDigits radix greatest beyond value text = .ok total ↔
      ∃ digits, List.Forall₂ (WritesDigit radix) text digits ∧
        Nat.ofDigits radix (digits.reverse ++ [value]) = total ∧ total ≤ greatest := by
  induction text generalizing value with
  | nil =>
      rw [readDigits]
      constructor
      · rintro ⟨rfl⟩
        exact ⟨[], .nil, Nat.ofDigits_singleton, within⟩
      · rintro ⟨digits, ⟨⟩, same, -⟩
        rw [← same]
        exact congrArg Except.ok Nat.ofDigits_singleton.symm
  | cons c rest ih =>
      rw [readDigits]
      cases found : digitIn radix c with
      | none =>
          constructor
          · intro read
            cases read
          · rintro ⟨_, written, -⟩
            obtain ⟨digit, _, first, -⟩ := List.forall₂_cons_left_iff.mp written
            rw [(digitIn_eq_some_iff small).mpr first] at found
            cases found
      | some digit =>
          dsimp only
          have first := (digitIn_eq_some_iff small).mp found
          constructor
          · intro read
            split at read
            · rename_i bounded
              obtain ⟨digits, written, same, fits⟩ := (ih bounded).mp read
              exact ⟨digit :: digits, .cons first written,
                (ofDigits_next radix value digit digits).trans same, fits⟩
            · cases read
          · rintro ⟨_, written, same, fits⟩
            obtain ⟨other, digits, otherFirst, others, rfl⟩ :=
              List.forall₂_cons_left_iff.mp written
            rw [(digitIn_eq_some_iff small).mpr otherFirst] at found
            cases found
            rw [ofDigits_next] at same
            -- The whole row is within the bound, so its beginning is.
            have bounded : value * radix + digit ≤ greatest :=
              (le_ofDigits (Nat.zero_lt_of_lt first.1) _ digits).trans (same.trans_le fits)
            rw [if_pos bounded]
            exact (ih bounded).mpr ⟨digits, others, same, fits⟩

/-- A numeral is read exactly if what it stands for is within the bound. -/
theorem readDigits_zero_eq_ok_iff {radix : Nat} (small : radix ≤ 16) {greatest total : Nat}
    {beyond : NumeralFault} {text : List Char} (filled : text ≠ []) :
    readDigits radix greatest beyond 0 text = .ok total ↔
      Numeral radix text total ∧ total ≤ greatest := by
  have leading (digits : List Nat) :
      Nat.ofDigits radix (digits.reverse ++ [0]) = Nat.ofDigits radix digits.reverse := by
    rw [Nat.ofDigits_append, Nat.ofDigits_singleton, Nat.mul_zero, Nat.add_zero]
  rw [readDigits_eq_ok_iff small (Nat.zero_le greatest)]
  constructor
  · rintro ⟨digits, written, same, fits⟩
    rw [leading] at same
    rw [← same] at fits ⊢
    exact ⟨.row filled written, fits⟩
  · rintro ⟨⟨-, written⟩, fits⟩
    exact ⟨_, written, leading _, fits⟩

namespace Numeral

variable {radix : Nat} {text : List Char} {value : Nat}

theorem filled (numeral : Numeral radix text value) : text ≠ [] := by
  cases numeral with
  | row filled written => exact filled

/-- There are only digits in a numeral. -/
theorem exists_digit (numeral : Numeral radix text value) {c : Char} (listed : c ∈ text) :
    ∃ digit, WritesDigit radix c digit := by
  obtain ⟨-, written⟩ := numeral
  induction written with
  | nil => cases listed
  | cons first others ih =>
      rcases List.mem_cons.mp listed with rfl | later
      · exact ⟨_, first⟩
      · exact ih later

theorem not_mem (numeral : Numeral radix text value) (small : radix ≤ 16) {c : Char}
    (foreign : digitIn radix c = none) : c ∉ text := by
  intro listed
  obtain ⟨digit, written⟩ := numeral.exists_digit listed
  rw [(digitIn_eq_some_iff small).mpr written] at foreign
  cases foreign

/-- A numeral stands for one number. -/
theorem unique (small : radix ≤ 16) {other : Nat} (numeral : Numeral radix text value)
    (twin : Numeral radix text other) : value = other := by
  -- A reader with a bound above both numbers reads either of them.
  have reads {total : Nat} (numeral : Numeral radix text total) (fits : total ≤ value + other) :
      readDigits radix (value + other) .tooLarge 0 text = .ok total :=
    (readDigits_zero_eq_ok_iff small numeral.filled).mpr ⟨numeral, fits⟩
  exact Except.ok.inj ((reads numeral (by omega)).symm.trans (reads twin (by omega)))

/-- One more digit at the end of a row. -/
theorem snoc (numeral : Numeral radix text value) {c : Char} {digit : Nat}
    (last : WritesDigit radix c digit) :
    Numeral radix (text ++ [c]) (value * radix + digit) := by
  obtain ⟨filled, written⟩ := numeral
  rename_i digits
  have longer : List.Forall₂ (WritesDigit radix) (text ++ [c]) (digits ++ [digit]) :=
    List.rel_append written (.cons last .nil)
  have total : Nat.ofDigits radix (digits ++ [digit]).reverse =
      Nat.ofDigits radix digits.reverse * radix + digit := by
    rw [List.reverse_append, List.reverse_singleton, List.singleton_append, Nat.ofDigits_cons]
    simp [Nat.mul_comm radix, Nat.add_comm digit]
  rw [← total]
  exact .row (by simp) longer

end Numeral

/-- A number is written as a numeral that stands for it. -/
theorem numeral_repr (value : Nat) : Numeral 10 (Nat.repr value).toList value := by
  have last {digit : Nat} (below : digit < 10) : WritesDigit 10 (Nat.digitChar digit) digit :=
    ⟨below, .inl rfl⟩
  rw [Nat.toList_repr]
  induction value using Nat.strongRecOn with
  | ind value ih =>
      rw [Nat.toDigits_eq_if (by decide)]
      split
      · rename_i below
        have single := Numeral.row (by simp) (.cons (last below) .nil)
        rwa [List.reverse_singleton, Nat.ofDigits_singleton] at single
      · rename_i large
        have longer := (ih (value / 10) (by omega)).snoc (last (Nat.mod_lt value (by decide)))
        rwa [Nat.div_add_mod'] at longer

theorem digitIn_minus (radix : Nat) : digitIn radix '-' = none := rfl

theorem digitIn_plus (radix : Nat) : digitIn radix '+' = none := rfl

theorem exists_mark_of_afterHexMark {text digits : List Char}
    (marked : afterHexMark text = some digits) :
    ∃ mark, (mark = 'x' ∨ mark = 'X') ∧ text = '0' :: mark :: digits := by
  unfold afterHexMark at marked
  split at marked
  · cases marked
    exact ⟨'x', .inl rfl, rfl⟩
  · cases marked
    exact ⟨'X', .inr rfl, rfl⟩
  · cases marked

/-! ## Unsigned numerals -/

/-- A numeral behind a plus sign that may be left out. -/
inductive UnsignedNumeral (radix : Nat) : List Char → Nat → Prop
  | plain {text : List Char} {value : Nat} (numeral : Numeral radix text value) :
    UnsignedNumeral radix text value
  | plus {text : List Char} {value : Nat} (numeral : Numeral radix text value) :
    UnsignedNumeral radix ('+' :: text) value

namespace UnsignedNumeral

variable {radix : Nat} {text : List Char} {value : Nat}

theorem of_plus (small : radix ≤ 16) (unsigned : UnsignedNumeral radix ('+' :: text) value) :
    Numeral radix text value := by
  cases unsigned with
  | plain numeral =>
      exact absurd List.mem_cons_self (numeral.not_mem small (digitIn_plus radix))
  | plus numeral => exact numeral

/-- There are only digits behind the plus sign. -/
theorem not_mem (unsigned : UnsignedNumeral radix text value) (small : radix ≤ 16) {c : Char}
    (other : c ≠ '+') (foreign : digitIn radix c = none) : c ∉ text := by
  cases unsigned with
  | plain numeral => exact numeral.not_mem small foreign
  | plus numeral => simp [other, numeral.not_mem small foreign]

/-- An unsigned numeral stands for one number. -/
theorem unique (small : radix ≤ 16) {other : Nat} (unsigned : UnsignedNumeral radix text value)
    (twin : UnsignedNumeral radix text other) : value = other := by
  cases unsigned with
  | plain numeral =>
      cases twin with
      | plain same => exact numeral.unique small same
      | plus => exact absurd List.mem_cons_self (numeral.not_mem small (digitIn_plus radix))
  | plus numeral => exact numeral.unique small (twin.of_plus small)

end UnsignedNumeral

/-- The reader of unsigned numbers reads unsigned numerals within its bound. -/
theorem readNat_eq_ok_iff {radix : Nat} (small : radix ≤ 16) {greatest value : Nat}
    {text : List Char} :
    readNat radix greatest text = .ok value ↔
      UnsignedNumeral radix text value ∧ value ≤ greatest := by
  unfold readNat
  split
  · refine iff_of_false (by simp) ?_
    rintro ⟨⟨numeral⟩, -⟩
    exact numeral.filled rfl
  · refine iff_of_false (by simp) ?_
    rintro ⟨unsigned, -⟩
    exact (unsigned.of_plus small).filled rfl
  · rename_i filled
    rw [readDigits_zero_eq_ok_iff small filled]
    exact and_congr_left' ⟨.plus, UnsignedNumeral.of_plus small⟩
  · rename_i filled _ noPlus
    rw [readDigits_zero_eq_ok_iff small filled]
    refine and_congr_left' ⟨.plain, ?_⟩
    rintro (numeral | -)
    · exact numeral
    · exact absurd rfl (noPlus _)

theorem Numeral.readNat_eq_ok {radix : Nat} {text : List Char} {value : Nat}
    (numeral : Numeral radix text value) (small : radix ≤ 16) {greatest : Nat}
    (fits : value ≤ greatest) : readNat radix greatest text = .ok value :=
  (readNat_eq_ok_iff small).mpr ⟨.plain numeral, fits⟩

/-! ## Signed numerals -/

/-- A numeral behind a sign that may be left out, and the number of 64 bits it stands for. -/
inductive SignedNumeral (radix : Nat) : List Char → Int → Prop
  | plain {text : List Char} {value : Nat} (numeral : Numeral radix text value)
      (fits : value ≤ 0x7FFFFFFFFFFFFFFF) : SignedNumeral radix text value
  | plus {text : List Char} {value : Nat} (numeral : Numeral radix text value)
      (fits : value ≤ 0x7FFFFFFFFFFFFFFF) : SignedNumeral radix ('+' :: text) value
  | minus {text : List Char} {value : Nat} (numeral : Numeral radix text value)
      (fits : value ≤ 0x8000000000000000) : SignedNumeral radix ('-' :: text) (-value)

namespace SignedNumeral

variable {radix : Nat} {text : List Char} {value : Int}

theorem of_minus (small : radix ≤ 16) (signed : SignedNumeral radix ('-' :: text) value) :
    ∃ total : Nat, Numeral radix text total ∧ total ≤ 0x8000000000000000 ∧ -total = value := by
  cases signed with
  | plain numeral fits =>
      exact absurd List.mem_cons_self (numeral.not_mem small (digitIn_minus radix))
  | minus numeral fits => exact ⟨_, numeral, fits, rfl⟩

theorem of_plus (small : radix ≤ 16) (signed : SignedNumeral radix ('+' :: text) value) :
    ∃ total : Nat, Numeral radix text total ∧ total ≤ 0x7FFFFFFFFFFFFFFF ∧ total = value := by
  cases signed with
  | plain numeral fits =>
      exact absurd List.mem_cons_self (numeral.not_mem small (digitIn_plus radix))
  | plus numeral fits => exact ⟨_, numeral, fits, rfl⟩

/-- Where a text is a numeral with and without a sign, it stands for one number. -/
theorem eq_of_unsigned (small : radix ≤ 16) (signed : SignedNumeral radix text value)
    {total : Nat} (unsigned : UnsignedNumeral radix text total) : value = total := by
  cases unsigned with
  | plain numeral =>
      cases signed with
      | plain twin => exact congrArg Nat.cast (twin.unique small numeral)
      | plus => exact absurd List.mem_cons_self (numeral.not_mem small (digitIn_plus radix))
      | minus => exact absurd List.mem_cons_self (numeral.not_mem small (digitIn_minus radix))
  | plus numeral =>
      obtain ⟨total, twin, -, rfl⟩ := signed.of_plus small
      exact congrArg Nat.cast (twin.unique small numeral)

/-- Without a sign in it, a text is a signed numeral exactly if it is an unsigned one of at
most 63 bits. -/
theorem iff_unsigned (noPlus : '+' ∉ text) (noMinus : '-' ∉ text) :
    SignedNumeral radix text value ↔
      ∃ total : Nat, UnsignedNumeral radix text total ∧ total ≤ 0x7FFFFFFFFFFFFFFF ∧
        total = value := by
  constructor
  · rintro (⟨numeral, fits⟩ | - | -)
    · exact ⟨_, .plain numeral, fits, rfl⟩
    · exact absurd List.mem_cons_self noPlus
    · exact absurd List.mem_cons_self noMinus
  · rintro ⟨total, numeral | -, fits, rfl⟩
    · exact .plain numeral fits
    · exact absurd List.mem_cons_self noPlus

end SignedNumeral

/-- The reader of signed numbers of 64 bits reads signed numerals. -/
theorem readInt64_eq_ok_iff {radix : Nat} (small : radix ≤ 16) {text : List Char}
    {value : Int} :
    readInt64 radix text = .ok value ↔ SignedNumeral radix text value := by
  have digits {greatest : Nat} {beyond : NumeralFault} {text : List Char} {f : Nat → Int}
      (filled : text ≠ []) :
      (do return f (← readDigits radix greatest beyond 0 text)) = Except.ok value ↔
        ∃ total, Numeral radix text total ∧ total ≤ greatest ∧ f total = value := by
    rw [bind_eq_ok_iff]
    simp [readDigits_zero_eq_ok_iff small filled, pure, Except.pure, and_assoc]
  have refused {fault : NumeralFault} {text : List Char}
      (unsigned : ¬ SignedNumeral radix text value) :
      Except.error fault = Except.ok value ↔ SignedNumeral radix text value :=
    iff_of_false (by simp) unsigned
  unfold readInt64
  split
  · apply refused
    rintro ⟨numeral, -⟩
    exact numeral.filled rfl
  · apply refused
    intro signed
    obtain ⟨total, numeral, -⟩ := signed.of_plus small
    exact numeral.filled rfl
  · apply refused
    intro signed
    obtain ⟨total, numeral, -⟩ := signed.of_minus small
    exact numeral.filled rfl
  · rename_i text filled
    rw [digits filled]
    constructor
    · rintro ⟨total, numeral, fits, rfl⟩
      exact .minus numeral fits
    · exact SignedNumeral.of_minus small
  · rename_i text filled
    rw [digits filled]
    constructor
    · rintro ⟨total, numeral, fits, rfl⟩
      exact .plus numeral fits
    · exact SignedNumeral.of_plus small
  · rename_i filled _ _ noMinus noPlus
    rw [digits filled]
    constructor
    · rintro ⟨total, numeral, fits, rfl⟩
      exact .plain numeral fits
    · rintro (⟨numeral, fits⟩ | ⟨-, -⟩ | ⟨-, -⟩)
      · exact ⟨_, numeral, fits, rfl⟩
      · exact absurd rfl (noPlus _)
      · exact absurd rfl (noMinus _)

/-- A numeral without a sign is read as its number, unless that has more than 63 bits. -/
theorem Numeral.toOption_readInt64 {radix : Nat} (small : radix ≤ 16) {text : List Char}
    {value : Nat} (numeral : Numeral radix text value) :
    (readInt64 radix text).toOption =
      if value ≤ 0x7FFFFFFFFFFFFFFF then some (value : Int) else none := by
  split
  · rename_i fits
    rw [toOption_eq_some_iff, readInt64_eq_ok_iff small]
    exact .plain numeral fits
  · rename_i beyond
    rw [Option.eq_none_iff_forall_ne_some]
    intro number read
    rw [toOption_eq_some_iff, readInt64_eq_ok_iff small] at read
    cases read with
    | plain twin fits => exact beyond (numeral.unique small twin ▸ fits)
    | plus => exact numeral.not_mem small (digitIn_plus radix) List.mem_cons_self
    | minus => exact numeral.not_mem small (digitIn_minus radix) List.mem_cons_self

end Mips32.Text
