/-
# Output forms carry the same image

An image is written as bytes, as hexadecimal text or as a listing. The three forms are made
separately, and each of them gives the words back: the bytes four at a time, the text through
its bytes, and the listing line by line together with the address of each word. So images
with the same output in one of the forms have the same words.

A listing counts addresses from the start of the image, and a session counts them while
records are appended. Both count modulo 2^32, so they agree for images of any length, and the
address after the last word is the one that the session had come to.
-/
import Mips32.Proofs.AppendOnly
import Mips32.Proofs.ByteOrder
import Mips32.Proofs.Numeral
import Mips32.Proofs.Spacing

namespace Mips32

namespace Text

/-! ## Digits of a fixed number -/

/-- The hexadecimal digits in lower case, in the order of their values. -/
def lowerDigits : List Char :=
  ['0', '1', '2', '3', '4', '5', '6', '7', '8', '9', 'a', 'b', 'c', 'd', 'e', 'f']

/-- The hexadecimal digits in upper case, in the order of their values. -/
def upperDigits : List Char :=
  ['0', '1', '2', '3', '4', '5', '6', '7', '8', '9', 'A', 'B', 'C', 'D', 'E', 'F']

/-- A text that writes a number with so many digits of the given case. -/
structure Padded (cased : List Char) (width : Nat) (text : List Char) (value : Nat) :
    Prop where
  length : text.length = width
  cased : ∀ c ∈ text, c ∈ cased
  numeral : Numeral 16 text value

theorem hexDigits_eq_map (width value : Nat) :
    ∃ digits : List Nat, digits.length = width ∧ (∀ digit ∈ digits, digit < 16) ∧
      hexDigits width value = digits.map Nat.digitChar ∧
      Nat.ofDigits 16 digits.reverse = value % 16 ^ width := by
  induction width generalizing value with
  | zero => exact ⟨[], rfl, List.forall_mem_nil _, rfl, by simp [Nat.mod_one]⟩
  | succ width ih =>
      obtain ⟨digits, length, small, same, number⟩ := ih (value / 16)
      refine ⟨digits ++ [value % 16], ?_, ?_, ?_, ?_⟩
      · rw [List.length_append, length, List.length_singleton]
      · intro digit listed
        rcases List.mem_append.mp listed with before | last
        · exact small digit before
        · rw [List.mem_singleton.mp last]
          exact Nat.mod_lt _ (by decide)
      · rw [hexDigits, same, List.map_append]
        rfl
      · rw [List.reverse_append, List.reverse_singleton, List.singleton_append,
          Nat.ofDigits_cons, number, Nat.pow_succ, Nat.mul_comm (16 ^ width), Nat.mod_mul]

/-- The digits of a word, in the case they are put into, are a numeral of eight digits. -/
theorem padded_hexDigits {recase : Char → Char} {cased : List Char}
    (writes : ∀ digit < 16, WritesDigit 16 (recase (Nat.digitChar digit)) digit ∧
      recase (Nat.digitChar digit) ∈ cased) (word : UInt32) :
    Padded cased 8 ((hexDigits 8 word.toNat).map recase) word.toNat := by
  obtain ⟨digits, length, small, same, number⟩ := hexDigits_eq_map 8 word.toNat
  have whole : word.toNat % 16 ^ 8 = word.toNat := Nat.mod_eq_of_lt word.toNat_lt
  have filled : digits ≠ [] := List.ne_nil_of_length_eq_add_one length
  rw [same, List.map_map, ← whole, ← number]
  constructor
  · rw [List.length_map, length]
  · intro c listed
    obtain ⟨digit, member, rfl⟩ := List.mem_map.mp listed
    exact (writes digit (small digit member)).2
  · refine .row (by simpa using filled) (List.forall₂_map_left_iff.mpr ?_)
    exact List.forall₂_same.mpr fun digit member => (writes digit (small digit member)).1

theorem exists_hexAddress (address : UInt32) :
    ∃ digits, hexAddress address = '0' :: 'x' :: digits ∧
      Padded lowerDigits 8 digits address.toNat := by
  have writes : ∀ digit < 16,
      WritesDigit 16 (Nat.digitChar digit) digit ∧ Nat.digitChar digit ∈ lowerDigits := by
    unfold WritesDigit
    decide
  have padded : Padded lowerDigits 8 ((hexDigits 8 address.toNat).map id) address.toNat :=
    padded_hexDigits writes address
  rw [List.map_id] at padded
  exact ⟨_, rfl, padded⟩

theorem padded_hexWord (word : UInt32) : Padded upperDigits 8 (hexWord word) word.toNat := by
  apply padded_hexDigits
  unfold WritesDigit
  decide

/-! ## Digits of bytes -/

/-- Two digits for a byte, in upper case. -/
def hexByte (byte : UInt8) : List Char :=
  [upperDigits.getD (byte.toNat / 16) '0', upperDigits.getD (byte.toNat % 16) '0']

/-- The bytes of a text with two digits for each byte. A digit that is left over is
refused. -/
def readHex? : List Char → Option (List UInt8)
  | [] => some []
  | high :: low :: rest => do
    let high ← digitIn 16 high
    let low ← digitIn 16 low
    let bytes ← readHex? rest
    return UInt8.ofNat (16 * high + low) :: bytes
  | [_] => none

/-- The last two digits of a number are those of its last byte. -/
theorem map_toUpper_hexDigits (width : Nat) {number : Nat} {byte : UInt8}
    (last : byte.toNat = number % 0x100) :
    (hexDigits (width + 2) number).map Char.toUpper =
      (hexDigits width (number / 0x100)).map Char.toUpper ++ hexByte byte := by
  have upper : ∀ digit < 16, (Nat.digitChar digit).toUpper = upperDigits.getD digit '0' := by
    decide
  have high : number / 16 % 16 = byte.toNat / 16 := by omega
  have low : number % 16 = byte.toNat % 16 := by omega
  have bound : byte.toNat < 0x100 := byte.toNat_lt
  simp only [hexDigits, Nat.div_div_eq_div_mul, List.map_append, List.map_cons, List.map_nil,
    List.append_assoc, high, low]
  rw [upper _ (by omega), upper _ (by omega)]
  rfl

/-- The digits of a word are those of its bytes. -/
theorem hexWord_eq (word : UInt32) : hexWord word = (wordBytes word).flatMap hexByte := by
  have shifted : (word >>> 24).toUInt8.toNat = word.toNat / 0x100 / 0x100 / 0x100 % 0x100 ∧
      (word >>> 16).toUInt8.toNat = word.toNat / 0x100 / 0x100 % 0x100 ∧
      (word >>> 8).toUInt8.toNat = word.toNat / 0x100 % 0x100 := by
    rw [toNat_byte word (by decide), toNat_byte word (by decide), toNat_byte word (by decide)]
    simp only [UInt32.reduceToNat]
    omega
  obtain ⟨first, second, third⟩ := shifted
  have fourth : word.toUInt8.toNat = word.toNat % 0x100 := UInt32.toNat_toUInt8 word
  rw [hexWord, map_toUpper_hexDigits 6 fourth, map_toUpper_hexDigits 4 third,
    map_toUpper_hexDigits 2 second, map_toUpper_hexDigits 0 first]
  rfl

theorem readHex?_flatMap (bytes : List UInt8) : readHex? (bytes.flatMap hexByte) = some bytes := by
  have digit : ∀ digit < 16, digitIn 16 (upperDigits.getD digit '0') = some digit := by decide
  induction bytes with
  | nil => rfl
  | cons byte rest ih =>
      have bound : byte.toNat < 2 ^ 8 := byte.toNat_lt
      have number : 16 * (byte.toNat / 16) + byte.toNat % 16 = byte.toNat := by omega
      rw [List.flatMap_cons, hexByte, List.cons_append, List.cons_append, List.nil_append,
        readHex?, digit _ (by omega), digit _ (by omega), ih]
      show some (UInt8.ofNat (16 * (byte.toNat / 16) + byte.toNat % 16) :: rest) = _
      rw [number, UInt8.ofNat_toNat]

/-! ## Lines -/

/-- Lines that are ended one by one are the lines of the text. -/
theorem lines_flatMap {rows : List (List Char)}
    (clean : ∀ row ∈ rows, '\n' ∉ row ∧ '\r' ∉ row) :
    lines (rows.flatMap (· ++ ['\n'])) = rows := by
  have pieces : cut '\n' (rows.flatMap (· ++ ['\n'])) = rows ++ [[]] := by
    induction rows with
    | nil => rfl
    | cons row rest ih =>
        obtain ⟨cleanRow, cleanRest⟩ := List.forall_mem_cons.mp clean
        rw [List.flatMap_cons, List.append_assoc, List.singleton_append,
          cut_append_separator cleanRow.1, ih cleanRest, List.cons_append]
  have kept : rows.map dropCarriageReturn = rows := by
    have unchanged : ∀ row ∈ rows, dropCarriageReturn row = row := fun row listed =>
      if_neg fun ending => (clean row listed).2 (List.mem_of_getLast? ending)
    rw [List.map_congr_left unchanged, List.map_id']
  rw [lines, pieces]
  simp [kept]

end Text

namespace Image

/-! ## Listings -/

/-- A line of a listing without its end: an address in lower case and a word in upper case,
with eight digits each. -/
inductive Listed (address word : UInt32) : List Char → Prop
  | row {low high : List Char}
      (lower : Text.Padded Text.lowerDigits 8 low address.toNat)
      (upper : Text.Padded Text.upperDigits 8 high word.toNat) :
    Listed address word ('0' :: 'x' :: low ++ ':' :: ' ' :: high)

/-- The address and the word in a line of a listing. -/
def readListed? (row : List Char) : Option (UInt32 × UInt32) :=
  match row.takeWhile (· ≠ ':'), row.dropWhile (· ≠ ':') with
  | '0' :: 'x' :: low, ':' :: ' ' :: high => do
    let address ← (Text.readNat 16 0xFFFFFFFF low).toOption
    let word ← (Text.readNat 16 0xFFFFFFFF high).toOption
    return (UInt32.ofNat address, UInt32.ofNat word)
  | _, _ => none

/-- The addresses and the words in a listing. -/
def readListing? (text : List Char) : Option (List (UInt32 × UInt32)) :=
  (Text.lines text).mapM readListed?

variable {address word : UInt32} {row : List Char}

/-- The characters of a line are digits of one case or the other, or one of three others. -/
theorem Listed.mem (listed : Listed address word row) {c : Char} (found : c ∈ row) :
    c ∈ Text.lowerDigits ∨ c ∈ Text.upperDigits ∨ c ∈ ['x', ':', ' '] := by
  obtain ⟨lower, upper⟩ := listed
  simp only [List.cons_append, List.mem_cons, List.mem_append] at found
  rcases found with rfl | rfl | inLow | rfl | rfl | inHigh
  · exact .inl (by decide)
  · exact .inr (.inr (by decide))
  · exact .inl (lower.cased c inLow)
  · exact .inr (.inr (by decide))
  · exact .inr (.inr (by decide))
  · exact .inr (.inl (upper.cased c inHigh))

theorem Listed.clean (listed : Listed address word row) : '\n' ∉ row ∧ '\r' ∉ row := by
  constructor
  · exact fun found => absurd (listed.mem found) (by decide)
  · exact fun found => absurd (listed.mem found) (by decide)

theorem Listed.readListed?_eq (listed : Listed address word row) :
    readListed? row = some (address, word) := by
  have bounded (number : UInt32) : number.toNat ≤ 0xFFFFFFFF := Nat.le_of_lt_succ number.toNat_lt
  obtain ⟨lower, upper⟩ := listed
  rename_i low high
  have noColon : ':' ∉ '0' :: 'x' :: low := by
    have absent : ':' ∉ low := fun found => absurd (lower.cased _ found) (by decide)
    simpa using absent
  obtain ⟨front, back⟩ := Text.span_at noColon (' ' :: high)
  rw [readListed?, front, back]
  show ((Text.readNat 16 0xFFFFFFFF low).toOption.bind fun address =>
    (Text.readNat 16 0xFFFFFFFF high).toOption.bind fun word =>
      some (UInt32.ofNat address, UInt32.ofNat word)) = _
  rw [lower.numeral.readNat_eq_ok (by decide) (bounded address),
    upper.numeral.readNat_eq_ok (by decide) (bounded word)]
  simp

/-- The line of an address and a word, without its end. -/
def listingRow (address word : UInt32) : List Char :=
  Text.hexAddress address ++ [':', ' '] ++ Text.hexWord word

theorem listed_listingRow (address word : UInt32) :
    Listed address word (listingRow address word) := by
  obtain ⟨low, written, lower⟩ := Text.exists_hexAddress address
  rw [listingRow, written, List.append_assoc]
  exact .row lower (Text.padded_hexWord word)

/-- The addresses and words of an image. -/
def entries (image : Image) : List (UInt32 × UInt32) :=
  image.words.zipIdx.map fun item => (image.start + 4 * UInt32.ofNat item.2, item.1)

theorem map_snd_entries (image : Image) : image.entries.map Prod.snd = image.words := by
  rw [entries, List.map_map]
  exact List.zipIdx_map_fst 0 image.words

theorem getElem?_entries (image : Image) (index : Nat) :
    image.entries[index]? =
      image.words[index]?.map fun word => (image.start + 4 * UInt32.ofNat index, word) := by
  simp [entries, Function.comp_def]

/-- The address of a line is counted from the start, however far the listing has come. -/
theorem listingFrom_eq (start : UInt32) (count : Nat) (words : List UInt32) :
    listingFrom (start + 4 * UInt32.ofNat count) words =
      (words.zipIdx count).flatMap fun item =>
        listingRow (start + 4 * UInt32.ofNat item.2) item.1 ++ ['\n'] := by
  induction words generalizing count with
  | nil => rfl
  | cons word rest ih =>
      have next : start + 4 * UInt32.ofNat count + 4 = start + 4 * UInt32.ofNat (count + 1) := by
        rw [UInt32.ofNat_add, UInt32.mul_add, UInt32.add_assoc]
        rfl
      rw [listingFrom, next, ih, List.zipIdx_cons, List.flatMap_cons]
      rfl

theorem listing_eq (image : Image) :
    image.listing =
      (image.entries.map fun entry => listingRow entry.1 entry.2).flatMap (· ++ ['\n']) := by
  have first : image.start = image.start + 4 * UInt32.ofNat 0 := (UInt32.add_zero _).symm
  rw [listing, first, listingFrom_eq, entries, List.map_map, List.flatMap_map]
  rfl

/-- The lines of a listing show the addresses and the words of the image. -/
theorem lines_listing (image : Image) :
    Text.lines image.listing = image.entries.map fun entry => listingRow entry.1 entry.2 := by
  rw [listing_eq]
  apply Text.lines_flatMap
  intro row listed
  obtain ⟨entry, -, rfl⟩ := List.mem_map.mp listed
  exact (listed_listingRow entry.1 entry.2).clean

theorem exists_line {image : Image} {index : Nat}
    (found : image.entries[index]? = some (address, word)) :
    ∃ row, (Text.lines image.listing)[index]? = some row ∧ Listed address word row := by
  refine ⟨_, ?_, listed_listingRow address word⟩
  rw [lines_listing, List.getElem?_map, found]
  rfl

/-- A listing is read back as the addresses and the words of the image. -/
theorem readListing?_listing (image : Image) : readListing? image.listing = some image.entries := by
  have inverse : readListed? ∘ (fun entry => listingRow entry.1 entry.2) = some := by
    funext entry
    rw [Function.comp_apply, (listed_listingRow entry.1 entry.2).readListed?_eq]
  rw [readListing?, lines_listing, List.mapM_map, inverse]
  exact List.mapM_pure.trans (congrArg some (List.map_id _))

/-! ## Bytes and digits -/

theorem length_bytes (image : Image) : image.bytes.length = 4 * image.words.length := by
  rw [bytes]
  induction image.words with
  | nil => rfl
  | cons word rest ih =>
      rw [List.flatMap_cons, List.length_append, ih, List.length_cons, wordBytes]
      simp only [List.length_cons, List.length_nil]
      omega

theorem hex_eq (image : Image) : image.hex = image.bytes.flatMap Text.hexByte := by
  rw [hex, bytes, List.flatMap_assoc, funext Text.hexWord_eq]

/-- Whatever the byte order, the words are written most significant byte first. -/
theorem readWords?_bytes (image : Image) :
    ByteOrder.big.readWords? image.bytes = some image.words := by
  have read := ByteOrder.big.readWords?_flatMap image.words
  have same : image.words.map ByteOrder.big.apply = image.words := List.map_id' _
  rwa [same] at read

/-! ## Words in each form -/

/-- The words in hexadecimal text. -/
def wordsOfHex? (text : List Char) : Option (List UInt32) :=
  (Text.readHex? text).bind ByteOrder.big.readWords?

/-- The words in a listing. -/
def wordsOfListing? (text : List Char) : Option (List UInt32) :=
  (readListing? text).map fun entries => entries.map Prod.snd

theorem wordsOfHex?_hex (image : Image) : wordsOfHex? image.hex = some image.words := by
  rw [wordsOfHex?, hex_eq, Text.readHex?_flatMap]
  exact image.readWords?_bytes

theorem wordsOfListing?_listing (image : Image) :
    wordsOfListing? image.listing = some image.words := by
  rw [wordsOfListing?, readListing?_listing, Option.map_some, map_snd_entries]

/-- Where the words can be read from a form, the form tells images apart by their words. -/
theorem words_eq_of_read {Form : Type} {write : Image → Form} {read : Form → Option (List UInt32)}
    (inverse : ∀ image, read (write image) = some image.words) {first second : Image}
    (same : write first = write second) : first.words = second.words := by
  apply Option.some.inj
  rw [← inverse first, same, inverse]

end Image

/-! ## Images of sessions -/

namespace Session

variable {session : Session} {image : Image}

theorem start_of_image (finished : session.image = .ok image) :
    image.start = session.config.start := by
  rw [← toOption_eq_some_iff, toOption_image] at finished
  obtain ⟨words, -, rfl⟩ := Option.map_eq_some_iff.mp finished
  rfl

theorem length_words_of_image (finished : session.image = .ok image) :
    image.words.length = session.log.size := by
  rw [← toOption_eq_some_iff, toOption_image] at finished
  obtain ⟨words, packed, rfl⟩ := Option.map_eq_some_iff.mp finished
  rw [List.length_map, length_of_wordsOf? packed, Array.length_toList]

/-- An image ends where its session had come to. -/
theorem Counted.finish_eq (counted : session.Counted) (finished : session.image = .ok image) :
    image.finish = session.pc := by
  rw [Image.finish, start_of_image finished, length_words_of_image finished]
  exact counted.symm

/-- The listing of an image shows each word at the address of its record. -/
theorem Spaced.getElem?_entries (spaced : session.Spaced) (finished : session.image = .ok image)
    {index : Nat} {record : Record} (logged : session.log[index]? = some record) :
    ∃ word, image.entries[index]? = some (record.pc, word) := by
  have inside : index < image.words.length := by
    rw [length_words_of_image finished]
    exact (Array.getElem?_eq_some_iff.mp logged).1
  obtain ⟨word, found⟩ : ∃ word, image.words[index]? = some word :=
    ⟨_, List.getElem?_eq_getElem inside⟩
  refine ⟨word, ?_⟩
  rw [Image.getElem?_entries, found, start_of_image finished, spaced index record logged]
  rfl

end Session

/-- The output forms carry the same image, of any length. There are four bytes for each
word, the hexadecimal text has two digits for each of these bytes, and the listing has one
line for each word, with the address that its position gives. Each form gives the words
back, so images with the same output in one of them have the same words.

If the image is that of a session, it has one word for each record, the listing shows it at
the address of the record, and the image ends where the session had come to. -/
theorem Image.output_forms_agree (image : Image) :
    (image.bytes.length = 4 * image.words.length ∧
        image.hex = image.bytes.flatMap Text.hexByte ∧
        image.listing = (Text.lines image.listing).flatMap (· ++ ['\n']) ∧
        (Text.lines image.listing).length = image.words.length ∧
        ∀ index word, image.words[index]? = some word →
          ∃ row, (Text.lines image.listing)[index]? = some row ∧
            Listed (image.start + 4 * UInt32.ofNat index) word row) ∧
      (ByteOrder.big.readWords? image.bytes = some image.words ∧
        wordsOfHex? image.hex = some image.words ∧
        wordsOfListing? image.listing = some image.words ∧
        ∀ other : Image, other.bytes = image.bytes ∨ other.hex = image.hex ∨
          other.listing = image.listing → other.words = image.words) ∧
      ∀ config requests,
        let session := (Session.new config).run requests
        session.image = .ok image →
          image.words.length = session.log.size ∧
          (∀ (index : Nat) (record : Record), session.log[index]? = some record →
            ∃ row word, (Text.lines image.listing)[index]? = some row ∧
              Listed record.pc word row) ∧
          image.finish = session.pc := by
  refine ⟨⟨image.length_bytes, image.hex_eq, ?_, ?_, ?_⟩, ⟨image.readWords?_bytes,
    image.wordsOfHex?_hex, image.wordsOfListing?_listing, ?_⟩, ?_⟩
  · rw [lines_listing]
    exact image.listing_eq
  · rw [lines_listing, List.length_map, ← image.map_snd_entries, List.length_map]
  · intro index word found
    apply exists_line
    rw [getElem?_entries, found]
    rfl
  · rintro other (sameBytes | sameHex | sameListing)
    · exact words_eq_of_read readWords?_bytes sameBytes
    · exact words_eq_of_read wordsOfHex?_hex sameHex
    · exact words_eq_of_read wordsOfListing?_listing sameListing
  · intro config requests session finished
    have counted : session.Counted := (Session.new_counted config).run requests
    have spaced : session.Spaced :=
      (Session.new_spaced config).run (Session.new_counted config) requests
    refine ⟨Session.length_words_of_image finished, ?_, counted.finish_eq finished⟩
    intro index record logged
    obtain ⟨word, listed⟩ := spaced.getElem?_entries finished logged
    obtain ⟨row, found, shaped⟩ := exists_line listed
    exact ⟨row, word, found, shaped⟩

/-- An image that goes around the end of the address space. -/
theorem Image.output_forms_agree_around :
    let session := (Session.new ⟨0xFFFFFFFC, .little⟩).run
      [.command .nop, .command (.data 0x89ABCDEF)]
    let image : Image := ⟨0xFFFFFFFC, .little, [0, 0xEFCDAB89]⟩
    session.image = .ok image ∧
      image.listing = "0xfffffffc: 00000000\n0x00000000: EFCDAB89\n".toList ∧
      wordsOfListing? image.listing = some [0, 0xEFCDAB89] ∧
      image.finish = session.pc ∧ session.pc = 4 := by
  intro session image
  have finished : session.image = .ok image := toOption_eq_some_iff.mp (by decide +kernel)
  obtain ⟨-, ⟨-, -, read, -⟩, ofSession⟩ := Image.output_forms_agree image
  obtain ⟨-, -, ends⟩ := ofSession ⟨0xFFFFFFFC, .little⟩ _ finished
  exact ⟨finished, by decide +kernel, read, ends, by decide +kernel⟩

end Mips32
