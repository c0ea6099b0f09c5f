/-
# Byte orders do not interfere

The byte order of a session is looked at when its words are written and nowhere else. Two
runs of the same requests that differ in the byte order report the same, pass through the
same logs, addresses and label tables, and fail to give an image for the same record and
the same error. Their images differ in the order of the bytes of each word. So whoever
reads the bytes of an image in the image's own order finds the packed words of the
records.

A session in another byte order is the session moved by no distance, and what follows for
runs is the case of distance zero of what is known about sessions that are moved.
-/
import Mips32.Proofs.Image
import Mips32.Proofs.Relocation

namespace Mips32

/-! ## Reading bytes -/

namespace ByteOrder

/-- The number that bytes stand for. The first of them is the most significant one in the
big order and the least significant one in the little order. -/
def number : ByteOrder → List UInt8 → Nat
  | big, bytes => bytes.foldl (fun value byte => value * 0x100 + byte.toNat) 0
  | little, bytes => bytes.foldr (fun byte value => value * 0x100 + byte.toNat) 0

/-- The words that bytes stand for, four bytes for each word. Bytes that are left over
are refused. -/
def readWords? (order : ByteOrder) : List UInt8 → Option (List UInt32)
  | [] => some []
  | first :: second :: third :: fourth :: rest =>
    (order.readWords? rest).map
      (UInt32.ofNat (order.number [first, second, third, fourth]) :: ·)
  | _ => none

theorem number_little_reverse (bytes : List UInt8) :
    little.number bytes.reverse = big.number bytes := by
  rw [number, number, List.foldr_reverse]

theorem number_big_wordBytes (word : UInt32) : big.number (wordBytes word) = word.toNat := by
  have bound : word.toNat < 2 ^ 32 := word.toNat_lt
  simp only [number, wordBytes, List.foldl_cons, List.foldl_nil]
  rw [toNat_byte word (by decide), toNat_byte word (by decide), toNat_byte word (by decide),
    UInt32.toNat_toUInt8]
  simp only [UInt32.reduceToNat]
  omega

/-- A word that is written in a byte order is read in it. -/
theorem number_wordBytes_apply (order : ByteOrder) (word : UInt32) :
    order.number (wordBytes (order.apply word)) = word.toNat := by
  cases order with
  | little =>
      rw [apply, wordBytes_swapBytes, number_little_reverse]
      exact number_big_wordBytes word
  | big => exact number_big_wordBytes word

/-- Words that are written in a byte order are read in it. -/
theorem readWords?_flatMap (order : ByteOrder) (words : List UInt32) :
    order.readWords? ((words.map order.apply).flatMap wordBytes) = some words := by
  induction words with
  | nil => rfl
  | cons word rest ih =>
      have read := order.number_wordBytes_apply word
      rw [wordBytes] at read
      rw [List.map_cons, List.flatMap_cons]
      show (order.readWords? ((rest.map order.apply).flatMap wordBytes)).map
        (UInt32.ofNat (order.number _) :: ·) = _
      rw [ih, read, UInt32.ofNat_toNat]
      rfl

end ByteOrder

/-! ## Moving by no distance -/

theorem Slot.move_zero (slot : Slot) : slot.move 0 = slot := by
  obtain ⟨name, address⟩ := slot
  cases address with
  | none => rfl
  | some address => simp [Slot.move]

theorem Record.move_zero (record : Record) : record.move 0 = record := by
  simp [Record.move]

namespace Session

/-- A session that is moved by no distance keeps all but its byte order. -/
theorem move_zero (session : Session) (order : ByteOrder) :
    session.move 0 order = { session with config := ⟨session.config.start, order⟩ } := by
  simp [move, LabelTable.move, funext Slot.move_zero, funext Record.move_zero]

theorem new_order (start : UInt32) (first second : ByteOrder) :
    Session.new ⟨start, second⟩ = (Session.new ⟨start, first⟩).move 0 second := by
  rw [move_zero]
  rfl

theorem run_order (start : UInt32) (first second : ByteOrder) (requests : List Request) :
    (Session.new ⟨start, second⟩).run requests =
      { (Session.new ⟨start, first⟩).run requests with config := ⟨start, second⟩ } := by
  rw [new_order start first, run_move _ _ fun _ _ _ => rfl, move_zero, run_config]
  rfl

theorem outcomes_order (start : UInt32) (first second : ByteOrder) (requests : List Request) :
    (Session.new ⟨start, second⟩).outcomes requests =
      (Session.new ⟨start, first⟩).outcomes requests := by
  have unmoved : Except.mapError (EmissionError.move 0) = @id (Except EmissionError Unit) :=
    funext mapError_move_zero
  rw [new_order start first, outcomes_move _ _ fun _ _ _ => rfl, unmoved, List.map_id]

/-! ## Images -/

/-- Sessions with the same log and the same labels have images that differ in the byte
order of their words, or none for the same reason. -/
theorem image_of_same_records {little big : Session} (log : little.log = big.log)
    (labels : little.labels = big.labels) (isLittle : little.config.order = .little)
    (isBig : big.config.order = .big) :
    (∃ failure, little.image = .error failure ∧ big.image = .error failure) ∨
      ∃ ofLittle ofBig, little.image = .ok ofLittle ∧ big.image = .ok ofBig ∧
        ofLittle.words = ofBig.words.map swapBytes := by
  cases outcome : big.image with
  | error failure =>
      obtain ⟨index, error⟩ := failure
      rw [image_eq_error_iff, ← log, ← labels, ← image_eq_error_iff] at outcome
      exact .inl ⟨_, outcome, rfl⟩
  | ok ofBig =>
      rw [← toOption_eq_some_iff, toOption_image, isBig] at outcome
      obtain ⟨words, packed, rfl⟩ := Option.map_eq_some_iff.mp outcome
      refine .inr ⟨⟨little.config.start, .little, words.map swapBytes⟩, _, ?_, rfl, ?_⟩
      · rw [← toOption_eq_some_iff, toOption_image, log, labels, packed, isLittle]
        rfl
      · show words.map swapBytes = (words.map fun word => word).map swapBytes
        rw [List.map_id']

/-- The bytes of an image, read in its own byte order, are the words of the records. -/
theorem readWords?_of_image {session : Session} {image : Image}
    (finished : session.image = .ok image) :
    image.order = session.config.order ∧
      ∃ words, wordsOf? session.labels session.log.toList = some words ∧
        image.order.readWords? image.bytes = some words := by
  rw [← toOption_eq_some_iff, toOption_image] at finished
  obtain ⟨words, packed, rfl⟩ := Option.map_eq_some_iff.mp finished
  exact ⟨rfl, words, packed, ByteOrder.readWords?_flatMap _ words⟩

/-- The byte order of a session makes no difference but to the bytes of its image. Two
runs of the same requests in the two orders report the same, and hold the same log,
address and labels after each request. They have no image for the same record and the
same error, or images in which each word has the bytes of the other in the opposite
order. In both, the bytes of the image, read in its own order, give the packed word of
each record in the order of the log. -/
theorem run_either_byteOrder (start : UInt32) (requests : List Request) :
    let little := Session.new ⟨start, .little⟩
    let big := Session.new ⟨start, .big⟩
    little.outcomes requests = big.outcomes requests ∧
      (∀ earlier, earlier <+: requests →
        (little.run earlier).log = (big.run earlier).log ∧
        (little.run earlier).pc = (big.run earlier).pc ∧
        (little.run earlier).labels = (big.run earlier).labels) ∧
      ((∃ failure, (little.run requests).image = .error failure ∧
          (big.run requests).image = .error failure) ∨
        ∃ ofLittle ofBig, (little.run requests).image = .ok ofLittle ∧
          (big.run requests).image = .ok ofBig ∧
          ofLittle.words = ofBig.words.map swapBytes) ∧
      ∀ order image, ((Session.new ⟨start, order⟩).run requests).image = .ok image →
        image.order = order ∧
        ∃ words, wordsOf? ((Session.new ⟨start, order⟩).run requests).labels
            ((Session.new ⟨start, order⟩).run requests).log.toList = some words ∧
          image.order.readWords? image.bytes = some words := by
  intro little big
  have same (earlier : List Request) : little.run earlier =
      { big.run earlier with config := ⟨start, .little⟩ } := run_order start .big .little earlier
  refine ⟨outcomes_order start .big .little requests, ?_, ?_, ?_⟩
  · intro earlier _
    rw [same]
    exact ⟨rfl, rfl, rfl⟩
  · apply image_of_same_records
    · rw [same]
    · rw [same]
    · rw [run_config]
      rfl
    · rw [run_config]
      rfl
  · intro order image finished
    have read := readWords?_of_image finished
    rw [run_config] at read
    exact read

/-- A load and a word of data in both orders. The bytes of each image are read as the same
two words. -/
theorem run_either_byteOrder_bytes :
    let requests : List Request :=
      [.command (.lui .temporary 0x1234), .command (.data 0x89ABCDEF)]
    let words : List UInt32 := [0x3C011234, 0x89ABCDEF]
    ∃ ofLittle ofBig,
      ((Session.new ⟨0, .little⟩).run requests).image = .ok ofLittle ∧
      ((Session.new ⟨0, .big⟩).run requests).image = .ok ofBig ∧
      ofLittle.bytes = [0x34, 0x12, 0x01, 0x3C, 0xEF, 0xCD, 0xAB, 0x89] ∧
      ofBig.bytes = [0x3C, 0x01, 0x12, 0x34, 0x89, 0xAB, 0xCD, 0xEF] ∧
      ByteOrder.little.readWords? ofLittle.bytes = some words ∧
      ByteOrder.big.readWords? ofBig.bytes = some words := by
  intro requests words
  have finishedLittle : ((Session.new ⟨0, .little⟩).run requests).image =
      .ok ⟨0, .little, [0x3412013C, 0xEFCDAB89]⟩ := toOption_eq_some_iff.mp (by decide +kernel)
  have finishedBig : ((Session.new ⟨0, .big⟩).run requests).image =
      .ok ⟨0, .big, [0x3C011234, 0x89ABCDEF]⟩ := toOption_eq_some_iff.mp (by decide +kernel)
  have read := (run_either_byteOrder 0 requests).2.2.2
  obtain ⟨-, wordsLittle, packedLittle, readLittle⟩ := read .little _ finishedLittle
  obtain ⟨-, wordsBig, packedBig, readBig⟩ := read .big _ finishedBig
  have packed : wordsOf? ((Session.new ⟨0, .little⟩).run requests).labels
      ((Session.new ⟨0, .little⟩).run requests).log.toList = some words := by decide +kernel
  cases packedLittle.symm.trans packed
  have packedToo : wordsOf? ((Session.new ⟨0, .big⟩).run requests).labels
      ((Session.new ⟨0, .big⟩).run requests).log.toList = some words := by decide +kernel
  cases packedBig.symm.trans packedToo
  exact ⟨_, _, finishedLittle, finishedBig, by decide +kernel, by decide +kernel, readLittle,
    readBig⟩

end Session

end Mips32
