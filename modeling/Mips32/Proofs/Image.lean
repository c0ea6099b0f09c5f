/-
# The words of an image

A session has an image exactly when each of its records has a word, and then the
image holds these words in the order of the log, each written in the byte order
of the session. Applying a byte order twice gives the packed word back, so nothing
is lost in writing. If there is no image, the first record without a word is blamed.
-/
import Mips32.Session
import Mips32.Proofs.Outcome

namespace Mips32

/-! ## Byte orders -/

theorem toNat_shifted_byte (byte : UInt8) {amount : UInt32} (small : amount.toNat ≤ 24) :
    (byte.toUInt32 <<< amount).toNat = byte.toNat <<< amount.toNat := by
  have inside : amount.toNat % 32 = amount.toNat := Nat.mod_eq_of_lt (by omega)
  rw [UInt32.toNat_shiftLeft, UInt8.toNat_toUInt32, inside]
  apply Nat.mod_eq_of_lt
  rw [Nat.shiftLeft_eq]
  calc byte.toNat * 2 ^ amount.toNat
      < 2 ^ 8 * 2 ^ amount.toNat :=
        Nat.mul_lt_mul_of_pos_right byte.toNat_lt (Nat.two_pow_pos _)
    _ ≤ 2 ^ 8 * 2 ^ 24 := Nat.mul_le_mul_left _ (Nat.pow_le_pow_right (by decide) small)
    _ = 2 ^ 32 := rfl

/-- A word is the number whose digits are its bytes. -/
theorem toNat_wordOfBytes (first second third fourth : UInt8) :
    (wordOfBytes first second third fourth).toNat =
      first.toNat * 0x1000000 +
        (second.toNat * 0x10000 + (third.toNat * 0x100 + fourth.toNat)) := by
  have thirdBound : third.toNat < 2 ^ 8 := third.toNat_lt
  have secondBound : second.toNat < 2 ^ 8 := second.toNat_lt
  have fourthBound : fourth.toNat < 2 ^ 8 := fourth.toNat_lt
  have lowBits : third.toNat <<< 8 ||| fourth.toNat = third.toNat * 0x100 + fourth.toNat := by
    rw [← Nat.shiftLeft_add_eq_or_of_lt fourthBound, Nat.shiftLeft_eq]
  have middleBits : second.toNat <<< 16 ||| (third.toNat * 0x100 + fourth.toNat) =
      second.toNat * 0x10000 + (third.toNat * 0x100 + fourth.toNat) := by
    rw [← Nat.shiftLeft_add_eq_or_of_lt (by omega), Nat.shiftLeft_eq]
  rw [wordOfBytes, UInt32.toNat_or, UInt32.toNat_or, UInt32.toNat_or,
    toNat_shifted_byte _ (by decide), toNat_shifted_byte _ (by decide),
    toNat_shifted_byte _ (by decide), UInt8.toNat_toUInt32, Nat.or_assoc, Nat.or_assoc]
  simp only [UInt32.reduceToNat]
  rw [lowBits, middleBits, ← Nat.shiftLeft_add_eq_or_of_lt (by omega), Nat.shiftLeft_eq]

theorem toNat_byte (word : UInt32) {amount : UInt32} (small : amount.toNat ≤ 24) :
    (word >>> amount).toUInt8.toNat = word.toNat >>> amount.toNat % 0x100 := by
  have inside : amount.toNat % 32 = amount.toNat := Nat.mod_eq_of_lt (by omega)
  rw [UInt32.toNat_toUInt8, UInt32.toNat_shiftRight, inside]

theorem wordOfBytes_bytes (word : UInt32) :
    wordOfBytes (word >>> 24).toUInt8 (word >>> 16).toUInt8 (word >>> 8).toUInt8 word.toUInt8 =
      word := by
  have bound : word.toNat < 2 ^ 32 := word.toNat_lt
  apply UInt32.toNat.inj
  rw [toNat_wordOfBytes, toNat_byte word (by decide), toNat_byte word (by decide),
    toNat_byte word (by decide), UInt32.toNat_toUInt8]
  simp only [UInt32.reduceToNat]
  omega

theorem wordBytes_wordOfBytes (first second third fourth : UInt8) :
    wordBytes (wordOfBytes first second third fourth) = [first, second, third, fourth] := by
  have firstBound : first.toNat < 2 ^ 8 := first.toNat_lt
  have secondBound : second.toNat < 2 ^ 8 := second.toNat_lt
  have thirdBound : third.toNat < 2 ^ 8 := third.toNat_lt
  have fourthBound : fourth.toNat < 2 ^ 8 := fourth.toNat_lt
  have value := toNat_wordOfBytes first second third fourth
  have fourthByte : (wordOfBytes first second third fourth).toUInt8 = fourth := by
    apply UInt8.toNat.inj
    rw [UInt32.toNat_toUInt8]
    omega
  have byteAt {amount : UInt32} {byte : UInt8} (small : amount.toNat ≤ 24)
      (found : (wordOfBytes first second third fourth).toNat >>> amount.toNat % 0x100 =
        byte.toNat) :
      (wordOfBytes first second third fourth >>> amount).toUInt8 = byte :=
    UInt8.toNat.inj ((toNat_byte _ small).trans found)
  have thirdByte : (wordOfBytes first second third fourth >>> 8).toUInt8 = third := by
    apply byteAt (by decide)
    simp only [UInt32.reduceToNat]
    omega
  have secondByte : (wordOfBytes first second third fourth >>> 16).toUInt8 = second := by
    apply byteAt (by decide)
    simp only [UInt32.reduceToNat]
    omega
  have firstByte : (wordOfBytes first second third fourth >>> 24).toUInt8 = first := by
    apply byteAt (by decide)
    simp only [UInt32.reduceToNat]
    omega
  rw [wordBytes, fourthByte, thirdByte, secondByte, firstByte]

/-- The opposite order of the bytes, byte by byte. -/
theorem wordBytes_swapBytes (word : UInt32) :
    wordBytes (swapBytes word) = (wordBytes word).reverse :=
  wordBytes_wordOfBytes ..

theorem swapBytes_wordOfBytes (first second third fourth : UInt8) :
    swapBytes (wordOfBytes first second third fourth) =
      wordOfBytes fourth third second first := by
  have bytes := wordBytes_wordOfBytes first second third fourth
  simp only [wordBytes, List.cons.injEq] at bytes
  obtain ⟨firstByte, secondByte, thirdByte, fourthByte, -⟩ := bytes
  rw [swapBytes, fourthByte, thirdByte, secondByte, firstByte]

theorem swapBytes_swapBytes (word : UInt32) : swapBytes (swapBytes word) = word := by
  calc swapBytes (swapBytes word)
      = wordOfBytes (word >>> 24).toUInt8 (word >>> 16).toUInt8 (word >>> 8).toUInt8
          word.toUInt8 := swapBytes_wordOfBytes ..
    _ = word := wordOfBytes_bytes word

/-- A byte order is undone by applying it again. -/
@[simp]
theorem ByteOrder.apply_apply (order : ByteOrder) (word : UInt32) :
    order.apply (order.apply word) = word := by
  cases order with
  | little => exact swapBytes_swapBytes word
  | big => rfl

/-! ## Words of records -/

/-- The packed words of records, if every record has one. -/
def wordsOf? (labels : LabelTable) (records : List Record) : Option (List UInt32) :=
  records.mapM fun record => (record.word labels).toOption

@[simp]
theorem wordsOf?_nil (labels : LabelTable) : wordsOf? labels [] = some [] := rfl

theorem wordsOf?_cons (labels : LabelTable) (record : Record) (rest : List Record) :
    wordsOf? labels (record :: rest) =
      (record.word labels).toOption.bind fun word =>
        (wordsOf? labels rest).map fun words => word :: words := by
  simp only [wordsOf?, List.mapM_cons, Option.map_eq_bind]
  rfl

theorem wordsOf?_append (labels : LabelTable) (front back : List Record) :
    wordsOf? labels (front ++ back) =
      (wordsOf? labels front).bind fun words =>
        (wordsOf? labels back).map fun more => words ++ more := by
  simp only [wordsOf?, List.mapM_append, Option.map_eq_bind]
  rfl

/-- The word at a position belongs to the record at that position. -/
theorem getElem?_of_wordsOf? {labels : LabelTable} {records : List Record}
    {words : List UInt32} (packed : wordsOf? labels records = some words)
    {index : Nat} {record : Record} (listed : records[index]? = some record) :
    ∃ word, record.word labels = .ok word ∧ words[index]? = some word := by
  induction records generalizing words index with
  | nil => cases listed
  | cons first rest ih =>
      rw [wordsOf?_cons, Option.bind_eq_some_iff] at packed
      obtain ⟨word, hasWord, packed⟩ := packed
      obtain ⟨more, packedRest, rfl⟩ := Option.map_eq_some_iff.mp packed
      cases index with
      | zero =>
          cases listed
          exact ⟨word, toOption_eq_some_iff.mp hasWord, rfl⟩
      | succ index => exact ih packedRest listed

theorem length_of_wordsOf? {labels : LabelTable} {records : List Record} {words : List UInt32}
    (packed : wordsOf? labels records = some words) : words.length = records.length := by
  induction records generalizing words with
  | nil =>
      cases packed
      rfl
  | cons record rest ih =>
      rw [wordsOf?_cons, Option.bind_eq_some_iff] at packed
      obtain ⟨word, -, packed⟩ := packed
      obtain ⟨more, packedRest, rfl⟩ := Option.map_eq_some_iff.mp packed
      exact congrArg Nat.succ (ih packedRest)

theorem toOption_packRecords (order : ByteOrder) (labels : LabelTable) (words : Array UInt32)
    (records : List Record) :
    (packRecords order labels words records).toOption =
      (wordsOf? labels records).map fun more => words ++ (more.map order.apply).toArray := by
  induction records generalizing words with
  | nil => simp [packRecords]
  | cons record rest ih =>
      rw [packRecords, wordsOf?_cons]
      cases outcome : record.word labels with
      | error error => rfl
      | ok word =>
          simp only [ih, toOption_ok, Option.bind_some, Option.map_map]
          congr 1
          funext more
          apply Array.ext'
          simp

/-- A session has an image exactly when all its records have words, and the image
is made of these. -/
theorem Session.toOption_image (session : Session) :
    session.image.toOption =
      (wordsOf? session.labels session.log.toList).map fun words =>
        ⟨session.config.start, session.config.order, words.map session.config.order.apply⟩ := by
  rw [Session.image, toOption_bind, toOption_packRecords]
  cases wordsOf? session.labels session.log.toList <;> simp [pure, Except.pure]

theorem packRecords_eq_error_iff {order : ByteOrder} {labels : LabelTable}
    {words : Array UInt32} {records : List Record} {index : Nat} {error : AssemblyError} :
    packRecords order labels words records = .error (index, error) ↔
      ∃ offset record, index = words.size + offset ∧ records[offset]? = some record ∧
        record.word labels = .error error ∧
        ∀ earlier ∈ records.take offset, ∃ word, earlier.word labels = .ok word := by
  induction records generalizing words with
  | nil =>
      constructor
      · intro failed
        cases failed
      · rintro ⟨offset, record, -, listed, -⟩
        cases listed
  | cons first rest ih =>
      rw [packRecords]
      cases outcome : first.word labels with
      | error cause =>
          constructor
          · intro failed
            cases failed
            exact ⟨0, first, rfl, rfl, outcome, by simp⟩
          · rintro ⟨offset, record, rfl, listed, failed, packed⟩
            cases offset with
            | zero =>
                cases listed
                rw [outcome] at failed
                cases failed
                rfl
            | succ offset =>
                obtain ⟨word, success⟩ := packed first (by simp)
                rw [outcome] at success
                cases success
      | ok word =>
          refine ih.trans ⟨?_, ?_⟩
          · rintro ⟨offset, record, rfl, listed, failed, packed⟩
            refine ⟨offset + 1, record, ?_, listed, failed, ?_⟩
            · rw [Array.size_push]
              omega
            · intro earlier before
              rcases List.mem_cons.mp before with rfl | before
              · exact ⟨word, outcome⟩
              · exact packed earlier before
          · rintro ⟨offset, record, rfl, listed, failed, packed⟩
            cases offset with
            | zero =>
                cases listed
                rw [outcome] at failed
                cases failed
            | succ offset =>
                refine ⟨offset, record, ?_, listed, failed, ?_⟩
                · rw [Array.size_push]
                  omega
                · exact fun earlier before => packed earlier (List.mem_cons_of_mem _ before)

/-- A session without an image blames a record that has no word while every record
before it has one. -/
theorem Session.image_eq_error_iff {session : Session} {index : Nat} {error : AssemblyError} :
    session.image = .error (index, error) ↔
      ∃ record, session.log[index]? = some record ∧
        record.word session.labels = .error error ∧
        ∀ earlier ∈ session.log.toList.take index,
          ∃ word, earlier.word session.labels = .ok word := by
  have same : session.image = .error (index, error) ↔
      packRecords session.config.order session.labels #[] session.log.toList =
        .error (index, error) := by
    rw [Session.image]
    cases packRecords session.config.order session.labels #[] session.log.toList with
    | error cause =>
        constructor
        · intro failed
          cases failed
          rfl
        · intro failed
          cases failed
          rfl
    | ok words => exact ⟨nofun, nofun⟩
  rw [same, packRecords_eq_error_iff]
  constructor
  · rintro ⟨offset, record, position, listed, failed⟩
    obtain rfl : index = offset := position.trans (Nat.zero_add _)
    exact ⟨record, Array.getElem?_toList.symm.trans listed, failed⟩
  · rintro ⟨record, listed, failed⟩
    exact ⟨index, record, (Nat.zero_add _).symm, Array.getElem?_toList.trans listed, failed⟩

end Mips32
