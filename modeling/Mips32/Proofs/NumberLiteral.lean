/-
# Number literals

A number literal is a body behind a minus sign that may be left out, and its body is a
decimal numeral or a hexadecimal one behind its mark, with underscores anywhere in it. The
reader reads every literal, of any length, and gives its number if 63 bits can hold the
magnitude.

That is not all it reads. Underscores are removed after the reader has looked for a sign
behind the mark, and what is left is handed to a reader of signed numerals. So a sign that
has an underscore in front of it counts as the sign of the digits. Nothing else is read.
Only a late sign can write the least number of 64 bits, and a minus sign in front of it makes
the one number that 64 bits cannot hold.
-/
import Mips32.Literal
import Mips32.Proofs.Numeral
import Mips32.Proofs.Spacing

namespace Mips32

/-! ## Underscores -/

/-- A text is another one with underscores put in. -/
inductive Text.Grouped : List Char → List Char → Prop
  | nil : Grouped [] []
  | keep (c : Char) {text plain : List Char} (rest : Grouped text plain) :
    Grouped (c :: text) (c :: plain)
  | underscore {text plain : List Char} (rest : Grouped text plain) :
    Grouped ('_' :: text) plain

namespace Text.Grouped

theorem ungrouped_eq {text plain : List Char} (grouped : Grouped text plain)
    (bare : '_' ∉ plain) : ungrouped text = plain := by
  induction grouped with
  | nil => rfl
  | keep c rest ih =>
      rw [List.mem_cons, not_or] at bare
      rw [ungrouped, List.filter_cons_of_pos (by simpa using Ne.symm bare.1), ← ungrouped,
        ih bare.2]
  | underscore rest ih => exact ih bare

theorem of_ungrouped (text : List Char) : Grouped text (ungrouped text) := by
  induction text with
  | nil => exact .nil
  | cons c rest ih =>
      by_cases same : c = '_'
      · subst same
        exact .underscore ih
      · rw [ungrouped, List.filter_cons_of_pos (by simpa using same)]
        exact .keep c ih

theorem mem {text plain : List Char} (grouped : Grouped text plain) {c : Char}
    (listed : c ∈ text) : c = '_' ∨ c ∈ plain := by
  induction grouped with
  | nil => cases listed
  | keep d rest ih =>
      rcases List.mem_cons.mp listed with rfl | later
      · exact .inr List.mem_cons_self
      · exact (ih later).imp_right (List.mem_cons_of_mem d)
  | underscore rest ih =>
      rcases List.mem_cons.mp listed with rfl | later
      · exact .inl rfl
      · exact ih later

/-- Only underscores are in front of the first character that is none. -/
theorem exists_front {text plain : List Char} {c : Char} (grouped : Grouped text (c :: plain)) :
    ∃ count rest, text = List.replicate count '_' ++ c :: rest := by
  generalize first : c :: plain = whole at grouped
  induction grouped with
  | nil => cases first
  | keep d rest ih =>
      cases first
      exact ⟨0, _, rfl⟩
  | underscore rest ih =>
      obtain ⟨count, behind, rfl⟩ := ih first
      exact ⟨count + 1, behind, rfl⟩

end Text.Grouped

/-- Digits are not blank. -/
theorem Text.Numeral.solid {radix : Nat} {text : List Char} {value : Nat}
    (numeral : Numeral radix text value) (small : radix ≤ 16) : ∀ c ∈ text, isBlank c = false := by
  have digits : ∀ digit < 16, isBlank (Nat.digitChar digit) = false ∧
      isBlank (Nat.digitChar digit).toUpper = false := by
    decide
  intro c listed
  obtain ⟨digit, below, rfl | rfl⟩ := numeral.exists_digit listed
  · exact (digits digit (by omega)).1
  · exact (digits digit (by omega)).2

namespace Literal

open Text

/-! ## What is a literal -/

/-- The body of a literal and its number. -/
inductive Body : List Char → Int → Prop
  | decimal {text : List Char} {value : Nat} (numeral : Numeral 10 text value) : Body text value
  | hexadecimal {mark : Char} {text plain : List Char} {value : Nat}
      (marked : mark = 'x' ∨ mark = 'X') (grouped : Grouped text plain)
      (numeral : Numeral 16 plain value) : Body ('0' :: mark :: text) value

/-- A body in which the digits have a sign of their own behind an underscore, and its
number, which has to fit 64 bits. -/
inductive LateSign : List Char → Int → Prop
  | plus {mark : Char} {text plain : List Char} {value : Nat}
      (marked : mark = 'x' ∨ mark = 'X') (grouped : Grouped text ('+' :: plain))
      (numeral : Numeral 16 plain value) (fits : value ≤ 0x7FFFFFFFFFFFFFFF) :
    LateSign ('0' :: mark :: '_' :: text) value
  | minus {mark : Char} {text plain : List Char} {value : Nat}
      (marked : mark = 'x' ∨ mark = 'X') (grouped : Grouped text ('-' :: plain))
      (numeral : Numeral 16 plain value) (fits : value ≤ 0x8000000000000000) :
    LateSign ('0' :: mark :: '_' :: text) (-value)

/-- A body behind a minus sign that may be left out. -/
inductive Negatable (body : List Char → Int → Prop) : List Char → Int → Prop
  | plain {text : List Char} {value : Int} (unsigned : body text value) :
    Negatable body text value
  | negated {text : List Char} {value : Int} (unsigned : body text value) :
    Negatable body ('-' :: text) (-value)

/-! ## Reading bodies -/

theorem startsWithSign_eq_false {text : List Char} (noPlus : text.head? ≠ some '+')
    (noMinus : text.head? ≠ some '-') : startsWithSign text = false := by
  unfold startsWithSign
  split
  · exact absurd rfl noMinus
  · exact absurd rfl noPlus
  · rfl

theorem readUnsigned_of_mark {mark : Char} (marked : mark = 'x' ∨ mark = 'X') {text : List Char}
    (unsigned : startsWithSign text = false) :
    readUnsigned ('0' :: mark :: text) = (readInt64 16 (ungrouped text)).toOption := by
  have mark : afterHexMark ('0' :: mark :: text) = some text := by
    rcases marked with rfl | rfl <;> rfl
  rw [readUnsigned, mark]
  dsimp only
  rw [unsigned]
  rfl

theorem Body.readUnsigned_eq {text : List Char} {value : Int} (body : Body text value) :
    readUnsigned text = if value.natAbs ≤ 0x7FFFFFFFFFFFFFFF then some value else none := by
  cases body with
  | @decimal _ number numeral =>
      have unsigned : startsWithSign text = false := startsWithSign_eq_false
        (fun first => numeral.not_mem (by decide) rfl (List.mem_of_head? first))
        (fun first => numeral.not_mem (by decide) rfl (List.mem_of_head? first))
      have unmarked : afterHexMark text = none := by
        unfold afterHexMark
        split
        · exact absurd (by simp) (numeral.not_mem (c := 'x') (by decide) rfl)
        · exact absurd (by simp) (numeral.not_mem (c := 'X') (by decide) rfl)
        · rfl
      rw [readUnsigned, unsigned, unmarked]
      exact numeral.toOption_readInt64 (by decide)
  | @hexadecimal mark text plain number marked grouped numeral =>
      have foreign {c : Char} (other : c ≠ '_') (noDigit : digitIn 16 c = none) :
          text.head? ≠ some c := by
        intro first
        rcases grouped.mem (List.mem_of_head? first) with underscore | listed
        · exact other underscore
        · exact numeral.not_mem (by decide) noDigit listed
      rw [readUnsigned_of_mark marked
          (startsWithSign_eq_false (foreign (by decide) rfl) (foreign (by decide) rfl)),
        grouped.ungrouped_eq (numeral.not_mem (by decide) rfl)]
      exact numeral.toOption_readInt64 (by decide)

theorem LateSign.readUnsigned_eq {text : List Char} {value : Int} (late : LateSign text value) :
    readUnsigned text = some value := by
  have reads {mark : Char} {text signed : List Char} (marked : mark = 'x' ∨ mark = 'X')
      (grouped : Grouped text signed) (bare : '_' ∉ signed)
      (numeral : SignedNumeral 16 signed value) :
      readUnsigned ('0' :: mark :: '_' :: text) = some value := by
    have same : ungrouped ('_' :: text) = signed := grouped.ungrouped_eq bare
    rw [readUnsigned_of_mark marked rfl, same, toOption_eq_some_iff]
    exact (readInt64_eq_ok_iff (by decide)).mpr numeral
  cases late with
  | plus marked grouped numeral fits =>
      have bare := numeral.not_mem (c := '_') (by decide) rfl
      exact reads marked grouped (by simp [bare]) (.plus numeral fits)
  | minus marked grouped numeral fits =>
      have bare := numeral.not_mem (c := '_') (by decide) rfl
      exact reads marked grouped (by simp [bare]) (.minus numeral fits)

/-- A sign that comes first once underscores are removed, but not before, has an underscore
in front of it. -/
theorem exists_underscore {text plain : List Char} {sign : Char}
    (isSign : sign = '+' ∨ sign = '-') (unsigned : startsWithSign text = false)
    (signed : ungrouped text = sign :: plain) :
    ∃ rest, text = '_' :: rest ∧ Grouped rest (sign :: plain) := by
  cases text with
  | nil => cases signed
  | cons c rest =>
      by_cases same : c = '_'
      · subst same
        have behind : ungrouped rest = sign :: plain := signed
        exact ⟨rest, rfl, behind ▸ .of_ungrouped rest⟩
      · rw [ungrouped, List.filter_cons_of_pos (by simpa using same)] at signed
        obtain ⟨rfl, -⟩ := List.cons.inj signed
        rcases isSign with rfl | rfl <;> cases unsigned

/-- What is read is a body or has a late sign. -/
theorem body_or_lateSign_of_readUnsigned {text : List Char} {value : Int}
    (read : readUnsigned text = some value) : Body text value ∨ LateSign text value := by
  rw [readUnsigned] at read
  split at read
  · cases read
  · rename_i unsigned
    rw [Bool.not_eq_true] at unsigned
    split at read
    · rename_i digits marked
      obtain ⟨mark, isMark, rfl⟩ := exists_mark_of_afterHexMark marked
      split at read
      · cases read
      · rename_i noSign
        rw [Bool.not_eq_true] at noSign
        rw [toOption_eq_some_iff, readInt64_eq_ok_iff (by decide)] at read
        generalize plainly : ungrouped digits = plain at read
        cases read with
        | plain numeral fits =>
            exact .inl (.hexadecimal isMark (plainly ▸ .of_ungrouped digits) numeral)
        | plus numeral fits =>
            obtain ⟨rest, rfl, grouped⟩ := exists_underscore (.inl rfl) noSign plainly
            exact .inr (.plus isMark grouped numeral fits)
        | minus numeral fits =>
            obtain ⟨rest, rfl, grouped⟩ := exists_underscore (.inr rfl) noSign plainly
            exact .inr (.minus isMark grouped numeral fits)
    · rw [toOption_eq_some_iff, readInt64_eq_ok_iff (by decide)] at read
      cases read with
      | plain numeral fits => exact .inl (.decimal numeral)
      | plus => cases unsigned
      | minus => cases unsigned

theorem readUnsigned_eq_some_iff {text : List Char} {value : Int} :
    readUnsigned text = some value ↔
      (Body text value ∧ value.natAbs ≤ 0x7FFFFFFFFFFFFFFF) ∨ LateSign text value := by
  constructor
  · intro read
    rcases body_or_lateSign_of_readUnsigned read with body | late
    · rw [body.readUnsigned_eq] at read
      split at read
      · exact .inl ⟨body, ‹_›⟩
      · cases read
    · exact .inr late
  · rintro (⟨body, fits⟩ | late)
    · rw [body.readUnsigned_eq, if_pos fits]
    · exact late.readUnsigned_eq

/-! ## Reading literals -/

theorem read?_of_minus {text body : List Char} (written : trim text = '-' :: body) :
    read? text = (readUnsigned body).map fun value => -value := by
  rw [read?, written]
  rfl

theorem read?_of_not_minus {text : List Char} (unsigned : ∀ body, trim text ≠ '-' :: body) :
    read? text = readUnsigned (trim text) := by
  have whole : splitMinus (trim text) = (false, trim text) := by
    unfold splitMinus
    split
    · exact absurd ‹_› (unsigned _)
    · rfl
  rw [read?, whole]
  simp

/-- A text is read by way of its body. -/
theorem read?_eq_some_iff {text : List Char} {value : Int} :
    read? text = some value ↔
      Negatable (fun body number => readUnsigned body = some number) (trim text) value := by
  by_cases signed : ∃ body, trim text = '-' :: body
  · obtain ⟨body, written⟩ := signed
    rw [read?_of_minus written, written, Option.map_eq_some_iff]
    constructor
    · rintro ⟨number, read, rfl⟩
      exact .negated read
    · intro negatable
      cases negatable with
      | plain read => cases read
      | negated read => exact ⟨_, read, rfl⟩
  · rw [not_exists] at signed
    rw [read?_of_not_minus signed]
    constructor
    · exact fun read => .plain read
    · intro negatable
      generalize written : trim text = core at negatable
      cases negatable with
      | plain read => exact read
      | negated read => exact absurd written (signed _)

theorem negatable_readUnsigned_iff {text : List Char} {value : Int} :
    Negatable (fun body number => readUnsigned body = some number) text value ↔
      (Negatable Body text value ∧ value.natAbs ≤ 0x7FFFFFFFFFFFFFFF) ∨
        Negatable LateSign text value := by
  constructor
  · rintro (read | read)
    · exact (readUnsigned_eq_some_iff.mp read).imp (.imp_left .plain) .plain
    · rw [Int.natAbs_neg]
      exact (readUnsigned_eq_some_iff.mp read).imp (.imp_left .negated) .negated
  · rintro (⟨body | body, fits⟩ | late | late)
    · exact .plain (readUnsigned_eq_some_iff.mpr (.inl ⟨body, fits⟩))
    · rw [Int.natAbs_neg] at fits
      exact .negated (readUnsigned_eq_some_iff.mpr (.inl ⟨body, fits⟩))
    · exact .plain (readUnsigned_eq_some_iff.mpr (.inr late))
    · exact .negated (readUnsigned_eq_some_iff.mpr (.inr late))

/-! ## Blanks around literals -/

theorem solid_of_mark {mark : Char} (marked : mark = 'x' ∨ mark = 'X') {text plain : List Char}
    (grouped : Grouped text plain) (solid : ∀ c ∈ plain, isBlank c = false) :
    ∀ c ∈ '0' :: mark :: text, isBlank c = false := by
  refine List.forall_mem_cons.mpr ⟨rfl, List.forall_mem_cons.mpr ⟨?_, ?_⟩⟩
  · rcases marked with rfl | rfl <;> rfl
  · intro c listed
    rcases grouped.mem listed with rfl | inside
    · rfl
    · exact solid c inside

theorem Body.solid {text : List Char} {value : Int} (body : Body text value) :
    ∀ c ∈ text, isBlank c = false := by
  cases body with
  | decimal numeral => exact numeral.solid (by decide)
  | hexadecimal marked grouped numeral =>
      exact solid_of_mark marked grouped (numeral.solid (by decide))

theorem LateSign.solid {text : List Char} {value : Int} (late : LateSign text value) :
    ∀ c ∈ text, isBlank c = false := by
  cases late with
  | plus marked grouped numeral fits | minus marked grouped numeral fits =>
      apply solid_of_mark marked grouped.underscore
      exact List.forall_mem_cons.mpr ⟨rfl, numeral.solid (by decide)⟩

theorem Negatable.tight {body : List Char → Int → Prop}
    (solid : ∀ {text value}, body text value → ∀ c ∈ text, isBlank c = false)
    {text : List Char} {value : Int} (negatable : Negatable body text value) : Tight text := by
  apply tight_of_solid
  cases negatable with
  | plain unsigned => exact solid unsigned
  | negated unsigned => exact List.forall_mem_cons.mpr ⟨rfl, solid unsigned⟩

/-! ## The reader of literals -/

theorem not_body_minus {text : List Char} {value : Int} : ¬ Body ('-' :: text) value := by
  intro body
  cases body with
  | decimal numeral => exact numeral.not_mem (by decide) (digitIn_minus 10) List.mem_cons_self

theorem Body.nonneg {text : List Char} {value : Int} (body : Body text value) : 0 ≤ value := by
  cases body <;> exact Int.natCast_nonneg _

/-- A literal with blanks around it is read as its number if the magnitude of the number has
63 bits, and is refused otherwise. -/
theorem literal_read_exactly {lead text trail : List Char} {value : Int} (before : Blanks lead)
    (literal : Negatable Body text value) (behind : Blanks trail) :
    read? (lead ++ text ++ trail) =
      if value.natAbs ≤ 0x7FFFFFFFFFFFFFFF then some value else none := by
  have core := trim_append before (literal.tight Body.solid) behind
  cases literal with
  | plain body =>
      have unsigned (rest : List Char) : trim (lead ++ text ++ trail) ≠ '-' :: rest := by
        rw [core]
        rintro rfl
        exact not_body_minus body
      rw [read?_of_not_minus unsigned, core, body.readUnsigned_eq]
  | negated body =>
      rw [read?_of_minus core, body.readUnsigned_eq, Int.natAbs_neg]
      split <;> rfl

/-- The greatest magnitude is read behind a minus sign, and one more is refused. -/
theorem literal_read_exactly_at_edge :
    Negatable Body "-0X_7fff_FFFF_ffff_FFFF_".toList (-0x7FFFFFFFFFFFFFFF) ∧
    read? ([' ', '\u3000'] ++ "-0X_7fff_FFFF_ffff_FFFF_".toList ++ ['\t']) =
        some (-0x7FFFFFFFFFFFFFFF) ∧
    Negatable Body "0009223372036854775808".toList 0x8000000000000000 ∧
    read? ([] ++ "0009223372036854775808".toList ++ []) = none := by
  have digits : readDigits 16 0x7FFFFFFFFFFFFFFF .tooLarge 0
      (ungrouped "_7fff_FFFF_ffff_FFFF_".toList) = .ok 0x7FFFFFFFFFFFFFFF :=
    toOption_eq_some_iff.mp (by decide +kernel)
  have more : readDigits 10 0x8000000000000000 .tooLarge 0 "0009223372036854775808".toList =
      .ok 0x8000000000000000 :=
    toOption_eq_some_iff.mp (by decide +kernel)
  have hexadecimal := (readDigits_zero_eq_ok_iff (by decide) (by decide)).mp digits
  have decimal := (readDigits_zero_eq_ok_iff (by decide) (by decide)).mp more
  have greatest : Negatable Body "-0X_7fff_FFFF_ffff_FFFF_".toList (-0x7FFFFFFFFFFFFFFF) :=
    .negated (.hexadecimal (.inr rfl) (.of_ungrouped _) hexadecimal.1)
  have beyond : Negatable Body "0009223372036854775808".toList 0x8000000000000000 :=
    .plain (.decimal decimal.1)
  have before : Blanks [' ', '\u3000'] :=
    List.forall_mem_cons.mpr ⟨rfl, List.forall_mem_singleton.mpr rfl⟩
  have behind : Blanks ['\t'] := List.forall_mem_singleton.mpr rfl
  exact ⟨greatest, literal_read_exactly before greatest behind, beyond,
    literal_read_exactly blanks_nil beyond blanks_nil⟩

theorem LateSign.exists_infix {text : List Char} {value : Int} (late : LateSign text value) :
    ∃ sign, (sign = '+' ∨ sign = '-') ∧ ['_', sign] <:+: text := by
  have found {mark sign : Char} {text plain : List Char} (grouped : Grouped text (sign :: plain)) :
      ['_', sign] <:+: '0' :: mark :: '_' :: text := by
    obtain ⟨count, rest, rfl⟩ := grouped.exists_front
    refine ⟨'0' :: mark :: List.replicate count '_', rest, ?_⟩
    have shifted : List.replicate count '_' ++ ['_'] = '_' :: List.replicate count '_' := by
      rw [← List.replicate_succ', List.replicate_succ]
    simpa using congrArg (· ++ sign :: rest) shifted
  cases late with
  | plus marked grouped numeral fits => exact ⟨'+', .inl rfl, found grouped⟩
  | minus marked grouped numeral fits => exact ⟨'-', .inr rfl, found grouped⟩

/-- A late sign is right behind an underscore. -/
theorem Negatable.exists_infix {text : List Char} {value : Int}
    (late : Negatable LateSign text value) :
    ∃ sign, (sign = '+' ∨ sign = '-') ∧ ['_', sign] <:+: text := by
  cases late with
  | plain late => exact late.exists_infix
  | negated late =>
      obtain ⟨sign, isSign, inside⟩ := late.exists_infix
      exact ⟨sign, isSign, List.infix_cons inside⟩

theorem read?_eq_some_iff_around {text : List Char} {value : Int} :
    read? text = some value ↔
      ∃ lead core trail, Blanks lead ∧ Blanks trail ∧ text = lead ++ core ++ trail ∧
        (Negatable Body core value ∧ value.natAbs ≤ 0x7FFFFFFFFFFFFFFF ∨
          Negatable LateSign core value) := by
  rw [read?_eq_some_iff, negatable_readUnsigned_iff]
  constructor
  · intro form
    obtain ⟨lead, trail, before, behind, written⟩ := exists_trim text
    exact ⟨lead, trim text, trail, before, behind, written, form⟩
  · rintro ⟨lead, core, trail, before, behind, rfl, form⟩
    have tight : Tight core :=
      form.elim (fun literal => literal.1.tight Body.solid) (Negatable.tight LateSign.solid)
    rwa [trim_append before tight behind]

/-- A minus sign in front of the least number of 64 bits, which only a late sign can write. -/
def NegatesLeast (text : List Char) : Prop :=
  ∃ body, trim text = '-' :: body ∧ LateSign body (-0x8000000000000000)

theorem readUnsigned_fits {text : List Char} {value : Int} (read : readUnsigned text = some value) :
    -0x8000000000000000 ≤ value ∧ value ≤ 0x7FFFFFFFFFFFFFFF := by
  rcases readUnsigned_eq_some_iff.mp read with ⟨-, fits⟩ | late
  · omega
  · cases late <;> omega

/-- A number that is read has 64 bits, unless the text negates the least of them. -/
theorem read?_fits {text : List Char} {value : Int} (read : read? text = some value)
    (within : ¬ NegatesLeast text) :
    -0x8000000000000000 ≤ value ∧ value ≤ 0x7FFFFFFFFFFFFFFF := by
  have negatable := read?_eq_some_iff.mp read
  generalize written : trim text = core at negatable
  cases negatable with
  | plain unsigned => exact readUnsigned_fits unsigned
  | @negated body number unsigned =>
      have fits := readUnsigned_fits unsigned
      have other : number ≠ -0x8000000000000000 := by
        rintro rfl
        rcases readUnsigned_eq_some_iff.mp unsigned with ⟨-, small⟩ | late
        · exact absurd small (by decide)
        · exact within ⟨body, written, late⟩
      omega

/-- What is read is a literal whose magnitude has 63 bits, or a text with a late sign, with
blanks around it. Where no sign is right behind an underscore, it is a literal. -/
theorem accepted_is_literal_or_lateSign (text : List Char) (value : Int) :
    (read? text = some value ↔
      ∃ lead core trail, Blanks lead ∧ Blanks trail ∧ text = lead ++ core ++ trail ∧
        (Negatable Body core value ∧ value.natAbs ≤ 0x7FFFFFFFFFFFFFFF ∨
          Negatable LateSign core value)) ∧
    ((∀ sign, sign = '+' ∨ sign = '-' → ¬ ['_', sign] <:+: text) →
      (read? text = some value ↔
        ∃ lead core trail, Blanks lead ∧ Blanks trail ∧ text = lead ++ core ++ trail ∧
          Negatable Body core value ∧ value.natAbs ≤ 0x7FFFFFFFFFFFFFFF)) := by
  refine ⟨read?_eq_some_iff_around, fun timely => ?_⟩
  rw [read?_eq_some_iff_around]
  constructor
  · rintro ⟨lead, core, trail, before, behind, rfl, literal | late⟩
    · exact ⟨lead, core, trail, before, behind, rfl, literal⟩
    · obtain ⟨sign, isSign, inside⟩ := late.exists_infix
      exact absurd (inside.trans ⟨lead, trail, rfl⟩) (timely sign isSign)
  · rintro ⟨lead, core, trail, before, behind, written, literal⟩
    exact ⟨lead, core, trail, before, behind, written, .inl literal⟩

/-- A late sign is read although it makes no literal. -/
theorem accepted_with_late_sign :
    read? "0x_-5".toList = some (-5) ∧
      ¬ ∃ lead core trail, Blanks lead ∧ Blanks trail ∧
        "0x_-5".toList = lead ++ core ++ trail ∧ Negatable Body core (-5) := by
  refine ⟨by decide +kernel, ?_⟩
  rintro ⟨lead, core, trail, before, behind, written, literal⟩
  have whole := trim_append before (literal.tight Body.solid) behind
  rw [← written] at whole
  have first : core.head? = some '0' := by
    rw [← whole]
    decide +kernel
  generalize negative : (-5 : Int) = value at literal
  cases literal with
  | plain body =>
      have natural := body.nonneg
      omega
  | negated body => cases first

end Literal

end Mips32
