/-
# Register texts

A register text is a spelling of a register with blanks around it, and a dollar sign may
stand in front of the spelling. A general purpose register is spelt by its name, in letters
of either case, or by its number; a floating point register is spelt by a lower case `f` and
its number. Numbers may have a plus sign and zeros in front.

The reader tries a number first, in eight bits, and then the names. That it stops at the
first form that fits does not matter, because no text has two of them: names start with a
letter, `s8` is not in the table of names, and of the names only `fp` starts with an `f`. So
each of the two readers accepts exactly the spellings of its registers, and no text is
accepted by both.
-/
import Mips32.Register
import Mips32.Proofs.NumberLiteral
import Mips32.Proofs.Numeral
import Mips32.Proofs.Spacing

namespace Mips32

open Text

/-! ## Lower case -/

/-- The lower case of no other character is one that comes before the letters. -/
theorem toLower_eq_iff {c other : Char} (early : other.toNat < 65) :
    c.toLower = other ↔ c = other := by
  unfold Char.toLower
  split
  · rename_i upper
    have least : 65 ≤ c.toNat := UInt32.le_iff_toNat_le.mp upper.1
    have greatest : c.toNat ≤ 90 := UInt32.le_iff_toNat_le.mp upper.2
    have lower : (c.val + ('a'.val - 'A'.val)).toNat = c.toNat + 32 := by
      rw [UInt32.toNat_add]
      exact Nat.mod_eq_of_lt (show c.toNat + 32 < 0x100000000 by omega)
    refine iff_of_false ?_ ?_
    · rintro rfl
      have early : (c.val + ('a'.val - 'A'.val)).toNat < 65 := early
      omega
    · rintro rfl
      omega
  · rfl

theorem writesDigit_toLower_iff {c : Char} {digit : Nat} :
    WritesDigit 10 c.toLower digit ↔ WritesDigit 10 c digit := by
  have early : ∀ digit < 10, (Nat.digitChar digit).toNat < 65 ∧
      (Nat.digitChar digit).toUpper.toNat < 65 := by
    decide
  refine and_congr_right fun below => ?_
  rw [toLower_eq_iff (early digit below).1, toLower_eq_iff (early digit below).2]

theorem numeral_map_toLower_iff {text : List Char} {value : Nat} :
    Numeral 10 (text.map Char.toLower) value ↔ Numeral 10 text value := by
  constructor
  · intro numeral
    -- The row is taken apart at a variable; only then is it known to be in lower case.
    generalize lower : text.map Char.toLower = lowered at numeral
    obtain ⟨filled, written⟩ := numeral
    subst lower
    simp only [List.forall₂_map_left_iff, writesDigit_toLower_iff] at written
    exact .row (by simpa using filled) written
  · rintro ⟨filled, written⟩
    refine .row (by simpa using filled) ?_
    simpa only [List.forall₂_map_left_iff, writesDigit_toLower_iff] using written

theorem unsignedNumeral_map_toLower_iff {text : List Char} {value : Nat} :
    UnsignedNumeral 10 (text.map Char.toLower) value ↔ UnsignedNumeral 10 text value := by
  constructor
  · intro unsigned
    generalize lower : text.map Char.toLower = lowered at unsigned
    cases unsigned with
    | plain numeral => exact .plain (numeral_map_toLower_iff.mp (lower ▸ numeral))
    | plus numeral =>
        obtain ⟨c, digits, rfl, sign, rfl⟩ := List.map_eq_cons_iff.mp lower
        obtain rfl := (toLower_eq_iff (by decide)).mp sign
        exact .plus (numeral_map_toLower_iff.mp numeral)
  · rintro (numeral | numeral)
    · exact .plain (numeral_map_toLower_iff.mpr numeral)
    · exact .plus (numeral_map_toLower_iff.mpr numeral)

/-! ## The spelling in a register text -/

/-- A text and what is left of it without the blanks at its ends and without one dollar sign
in front. -/
inductive Bare : List Char → List Char → Prop
  | dollar {lead bare trail : List Char} (before : Blanks lead) (tight : Tight ('$' :: bare))
      (behind : Blanks trail) : Bare (lead ++ '$' :: bare ++ trail) bare
  | plain {lead bare trail : List Char} (before : Blanks lead) (tight : Tight bare)
      (behind : Blanks trail) (noDollar : bare.head? ≠ some '$') : Bare (lead ++ bare ++ trail) bare

theorem dropDollar_eq_self {text : List Char} (noDollar : text.head? ≠ some '$') :
    dropDollar text = text := by
  unfold dropDollar
  split
  · exact absurd rfl noDollar
  · rfl

theorem bare_iff {text bare : List Char} : Bare text bare ↔ dropDollar (trim text) = bare := by
  constructor
  · rintro (⟨before, tight, behind⟩ | ⟨before, tight, behind, noDollar⟩)
    · rw [trim_append before tight behind]
      rfl
    · rw [trim_append before tight behind, dropDollar_eq_self noDollar]
  · rintro rfl
    obtain ⟨lead, trail, before, behind, written⟩ := exists_trim text
    have tight := tight_trim text
    generalize trim text = core at written tight
    subst written
    by_cases dollar : core.head? = some '$'
    · obtain ⟨bare, rfl⟩ := List.head?_eq_some_iff.mp dollar
      exact .dollar before tight behind
    · rw [dropDollar_eq_self dollar]
      exact .plain before tight behind dollar

/-- A dollar sign is all there is to take off a text without blanks. -/
theorem bare_dollar {bare : List Char} (solid : ∀ c ∈ bare, isBlank c = false) :
    Bare ('$' :: bare) bare := by
  have tight : Tight ('$' :: bare) :=
    tight_of_solid (List.forall_mem_cons.mpr ⟨rfl, solid⟩)
  rw [bare_iff, trim_eq_self tight]
  rfl

/-! ## General purpose registers -/

namespace Reg

/-- The spellings of a general purpose register: its name, or the other name of the frame
pointer, in letters of either case, or its number. -/
inductive Spelt : List Char → Reg → Prop
  | name {text : List Char} {reg : Reg} (named : text.map Char.toLower = reg.name.toList) :
    Spelt text reg
  | frame {text : List Char} (named : text.map Char.toLower = ['s', '8']) : Spelt text fp
  | number {text : List Char} {reg : Reg} (numeral : UnsignedNumeral 10 text reg.id) :
    Spelt text reg

theorem ofName?_name (reg : Reg) : ofName? reg.name.toList = some reg := by
  have all : ∀ id : Fin 32, ofName? (names.get id).toList = some ⟨id⟩ := by decide +kernel
  exact all reg.id

/-- Looking a name up gives the register that has it. -/
theorem ofName?_eq_some_iff {name : List Char} {reg : Reg} :
    ofName? name = some reg ↔ name = reg.name.toList ∨ name = ['s', '8'] ∧ reg = fp := by
  constructor
  · intro found
    rw [ofName?] at found
    split at found
    · exact .inr ⟨‹_›, (Option.some.inj found).symm⟩
    · obtain ⟨id, first, rfl⟩ := Option.map_eq_some_iff.mp found
      have same := List.find?_some first
      exact .inl (of_decide_eq_true same).symm
  · rintro (rfl | ⟨rfl, rfl⟩)
    · exact ofName?_name reg
    · rfl

/-- A name is no number. -/
theorem not_unsignedNumeral_of_ofName? {name : List Char} {reg : Reg} {value : Nat}
    (found : ofName? name = some reg) : ¬ UnsignedNumeral 10 name value := by
  have letters : ∀ id : Fin 32,
      (names.get id).toList.any (fun c => c ≠ '+' ∧ digitIn 10 c = none) = true := by
    decide +kernel
  have letter : ∃ c ∈ name, c ≠ '+' ∧ digitIn 10 c = none := by
    rcases ofName?_eq_some_iff.mp found with rfl | ⟨rfl, -⟩
    · simpa [Reg.name] using List.any_eq_true.mp (letters reg.id)
    · exact ⟨'s', List.mem_cons_self, by decide, rfl⟩
  obtain ⟨c, listed, other, foreign⟩ := letter
  exact fun numeral => numeral.not_mem (by decide) other foreign listed

theorem ofNat?_eq_some_iff {id : Nat} {reg : Reg} : ofNat? id = some reg ↔ id = reg.id := by
  rw [ofNat?]
  split
  · rw [Option.some.injEq]
    constructor
    · rintro rfl
      rfl
    · rintro rfl
      rfl
  · rename_i beyond
    refine iff_of_false (by simp) ?_
    rintro rfl
    exact beyond reg.id.isLt

/-- All three forms show in the lower case of a text. -/
theorem spelt_iff {text : List Char} {reg : Reg} :
    Spelt text reg ↔
      UnsignedNumeral 10 (text.map Char.toLower) reg.id ∨
        ofName? (text.map Char.toLower) = some reg := by
  rw [unsignedNumeral_map_toLower_iff, ofName?_eq_some_iff]
  constructor
  · rintro (named | named | numeral)
    · exact .inr (.inl named)
    · exact .inr (.inr ⟨named, rfl⟩)
    · exact .inl numeral
  · rintro (numeral | named | ⟨named, rfl⟩)
    · exact .number numeral
    · exact .name named
    · exact .frame named

/-- The order in which the forms are tried does not matter. -/
theorem read?_eq_some_iff {text : String} {reg : Reg} :
    read? text = some reg ↔ Spelt (dropDollar (trim text.toList)) reg := by
  rw [read?, spelt_iff]
  generalize (dropDollar (trim text.toList)).map Char.toLower = lower
  cases read : readNat 10 255 lower with
  | ok id =>
      have numeral := ((readNat_eq_ok_iff (by decide)).mp read).1
      rw [ofNat?_eq_some_iff]
      constructor
      · rintro rfl
        exact .inl numeral
      · rintro (twin | found)
        · exact numeral.unique (by decide) twin
        · exact absurd numeral (not_unsignedNumeral_of_ofName? found)
  | error fault =>
      refine ⟨.inr, ?_⟩
      rintro (numeral | found)
      · -- A register has a number of fewer than eight bits, so it would have been read.
        have eightBits : (reg.id : Nat) ≤ 255 := by omega
        rw [(readNat_eq_ok_iff (by decide)).mpr ⟨numeral, eightBits⟩] at read
        cases read
      · exact found

theorem read_eq_ok_iff {text : String} {reg : Reg} :
    read text = .ok reg ↔ ∃ bare, Bare text.toList bare ∧ Spelt bare reg := by
  simp only [bare_iff, exists_eq_left', ← read?_eq_some_iff]
  rw [read]
  cases read? text <;> simp

theorem eq_of_read_error {text : String} {refusal : UnknownRegister}
    (refused : read text = .error refusal) : refusal = ⟨text⟩ := by
  rw [read] at refused
  split at refused <;> cases refused
  rfl

/-- Every register is read from the text it is written as. -/
theorem read_written (reg : Reg) : read reg.written = .ok reg := by
  have letters : ∀ id : Fin 32, (names.get id).toList.map Char.toLower = (names.get id).toList ∧
      (names.get id).toList.all (fun c => isBlank c = false) = true := by
    decide +kernel
  obtain ⟨lower, visible⟩ := letters reg.id
  have solid : ∀ c ∈ reg.name.toList, isBlank c = false := by
    simpa [Reg.name] using visible
  have written : reg.written.toList = '$' :: reg.name.toList := String.toList_append
  exact read_eq_ok_iff.mpr ⟨_, written ▸ bare_dollar solid, .name lower⟩

end Reg

/-! ## Floating point registers -/

namespace FReg

/-- The spellings of a floating point register, which has to exist. -/
inductive Spelt : List Char → FReg → Prop
  | number {text : List Char} {reg : FReg} (numeral : UnsignedNumeral 10 text reg.id)
      (exist : reg.id < 32) : Spelt ('f' :: text) reg

theorem ofNat?_eq_some_iff {id : Nat} {reg : FReg} :
    ofNat? id = some reg ↔ id = reg.id ∧ reg.id < 32 := by
  rw [ofNat?]
  split
  · rename_i below
    rw [Option.some.injEq]
    constructor
    · rintro rfl
      exact ⟨rfl, below⟩
    · rintro ⟨rfl, -⟩
      rfl
  · rename_i beyond
    refine iff_of_false (by simp) ?_
    rintro ⟨rfl, below⟩
    exact beyond below

theorem read?_eq_some_iff {text : String} {reg : FReg} :
    read? text = some reg ↔ Spelt (dropDollar (trim text.toList)) reg := by
  rw [read?]
  split
  · rename_i digits written
    rw [written]
    cases read : readNat 10 255 digits with
    | ok id =>
        have numeral := ((readNat_eq_ok_iff (by decide)).mp read).1
        rw [ofNat?_eq_some_iff]
        constructor
        · rintro ⟨rfl, exist⟩
          exact .number numeral exist
        · rintro ⟨twin, exist⟩
          exact ⟨numeral.unique (by decide) twin, exist⟩
    | error fault =>
        refine iff_of_false (by simp) ?_
        rintro ⟨numeral, exist⟩
        rw [(readNat_eq_ok_iff (by decide)).mpr ⟨numeral, by omega⟩] at read
        cases read
  · rename_i other
    refine iff_of_false (by simp) ?_
    generalize dropDollar (trim text.toList) = bare at other
    rintro ⟨-, -⟩
    exact other _ rfl

theorem read_eq_ok_iff {text : String} {reg : FReg} :
    read text = .ok reg ↔ ∃ bare, Bare text.toList bare ∧ Spelt bare reg := by
  simp only [bare_iff, exists_eq_left', ← read?_eq_some_iff]
  rw [read]
  cases read? text <;> simp

theorem eq_of_read_error {text : String} {refusal : UnknownRegister}
    (refused : read text = .error refusal) : refusal = ⟨text⟩ := by
  rw [read] at refused
  split at refused <;> cases refused
  rfl

/-- Every register that exists is read from the text it is written as. -/
theorem read_written {reg : FReg} (exist : reg.id < 32) : read reg.written = .ok reg := by
  have numeral := numeral_repr reg.id
  have written : reg.written.toList = '$' :: 'f' :: (Nat.repr reg.id).toList :=
    String.toList_append
  have solid : ∀ c ∈ 'f' :: (Nat.repr reg.id).toList, isBlank c = false :=
    List.forall_mem_cons.mpr ⟨rfl, numeral.solid (by decide)⟩
  exact read_eq_ok_iff.mpr ⟨_, written ▸ bare_dollar solid, .number (.plain numeral) exist⟩

end FReg

/-! ## Both kinds of register -/

/-- No text spells registers of both kinds: of the names only that of the frame pointer starts
with an `f`, and it does not go on with a number. -/
theorem not_spelt_both {text : List Char} {reg : Reg} {float : FReg}
    (general : Reg.Spelt text reg) : ¬ FReg.Spelt text float := by
  rintro ⟨numeral, -⟩
  rename_i digits
  cases general with
  | name named =>
      have framePointer : ∀ id : Fin 32, (Reg.names.get id).toList.head? = some 'f' →
          (Reg.names.get id).toList = ['f', 'p'] := by
        decide +kernel
      rw [Reg.name, framePointer reg.id (named ▸ rfl)] at named
      have tail : digits.map Char.toLower = ['p'] := (List.cons.inj named).2
      have lower := unsignedNumeral_map_toLower_iff.mpr numeral
      rw [tail] at lower
      exact lower.not_mem (by decide) (by decide) rfl List.mem_cons_self
  | frame named => exact absurd (List.cons.inj named).1 (by decide)
  | number whole => exact whole.not_mem (by decide) (by decide) rfl List.mem_cons_self

/-- Either reader accepts exactly the texts that spell one of its registers, and no text is
accepted by both. The register that a text is read as is written as a text that the same reader
reads as that register, and a refusal has the whole text that was refused. -/
theorem register_text_unambiguous (text : String) :
    (∀ reg, Reg.read text = .ok reg ↔ ∃ bare, Bare text.toList bare ∧ Reg.Spelt bare reg) ∧
    (∀ float, FReg.read text = .ok float ↔
      ∃ bare, Bare text.toList bare ∧ FReg.Spelt bare float) ∧
    (∀ reg float, ¬ (Reg.read text = .ok reg ∧ FReg.read text = .ok float)) ∧
    (∀ reg, Reg.read text = .ok reg → Reg.read reg.written = .ok reg) ∧
    (∀ float, FReg.read text = .ok float → FReg.read float.written = .ok float) ∧
    (∀ refusal, Reg.read text = .error refusal ∨ FReg.read text = .error refusal →
      refusal = ⟨text⟩) := by
  refine ⟨fun reg => Reg.read_eq_ok_iff, fun float => FReg.read_eq_ok_iff, ?_,
    fun reg _ => reg.read_written, ?_, ?_⟩
  · rintro reg float ⟨general, floating⟩
    obtain ⟨bare, stripped, spelt⟩ := Reg.read_eq_ok_iff.mp general
    obtain ⟨other, same, speltFloat⟩ := FReg.read_eq_ok_iff.mp floating
    obtain rfl := (bare_iff.mp stripped).symm.trans (bare_iff.mp same)
    exact not_spelt_both spelt speltFloat
  · intro float read
    obtain ⟨bare, -, ⟨numeral, exist⟩⟩ := FReg.read_eq_ok_iff.mp read
    exact FReg.read_written exist
  · rintro refusal (refused | refused)
    · exact Reg.eq_of_read_error refused
    · exact FReg.eq_of_read_error refused

/-- The other name of the frame pointer in capitals, a number with a sign and zeros in front,
and a number of nine bits. -/
theorem register_text_unambiguous_forms :
    (Reg.read "\u3000$S8\t" = .ok Reg.fp ∧ Reg.read Reg.fp.written = .ok Reg.fp) ∧
    (FReg.read "f+0031" = .ok ⟨31⟩ ∧ FReg.read (FReg.written ⟨31⟩) = .ok ⟨31⟩ ∧
      ∀ reg, Reg.read "f+0031" ≠ .ok reg) ∧
    ∃ refusal, Reg.read " $256" = .error refusal ∧
      refusal.message = "unknown register:  $256" := by
  have frame : Reg.read "\u3000$S8\t" = .ok Reg.fp := toOption_eq_some_iff.mp (by decide +kernel)
  have float : FReg.read "f+0031" = .ok ⟨31⟩ := toOption_eq_some_iff.mp (by decide +kernel)
  obtain ⟨-, -, -, back, -, -⟩ := register_text_unambiguous "\u3000$S8\t"
  obtain ⟨-, -, single, -, backFloat, -⟩ := register_text_unambiguous "f+0031"
  obtain ⟨-, -, -, -, -, carried⟩ := register_text_unambiguous " $256"
  refine ⟨⟨frame, back _ frame⟩, ⟨float, backFloat _ float, fun reg read => ?_⟩, ?_⟩
  · exact single reg _ ⟨read, float⟩
  · cases outcome : Reg.read " $256" with
    | ok reg =>
        have unread : (Reg.read " $256").toOption = none := by decide +kernel
        rw [outcome] at unread
        cases unread
    | error refusal =>
        obtain rfl := carried refusal (.inl outcome)
        exact ⟨_, rfl, by decide +kernel⟩

end Mips32
