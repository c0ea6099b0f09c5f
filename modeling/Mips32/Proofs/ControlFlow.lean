/-
# Finished words reach the labels they refer to

An instruction may refer to a label before the label has an address. In the image
of a finished session every such reference is right: the machine, reading the word
at the address of the instruction, branches or jumps to the label, and the two
halves of an address that an instruction pair loads are those of the label. The
address of a label is said without the label table, by the run alone: it counts
the records that were in the log when the label was placed.
-/
import Mips32.Proofs.History
import Mips32.Proofs.Image
import Mips32.Proofs.MachineTarget

namespace Mips32

/-- In the image of any run, each record's word, with the byte order undone, is
right about the label the record refers to. Such a label was placed by the run, and
its address is the start of the image plus four bytes for each record that was in
the log when it was placed, around the end of the address space. -/
theorem image_word_refersTo_label {config : Config} {requests : List Request} {image : Image}
    (finished : ((Session.new config).run requests).image = .ok image)
    {index : Nat} {record : Record}
    (logged : ((Session.new config).run requests).log[index]? = some record) :
    ∃ written, image.words[index]? = some written ∧
      ∀ label, record.instr.label? = some label →
        (∃ count, Session.PlacedAfter config requests label count) ∧
        ∀ count, Session.PlacedAfter config requests label count →
          record.instr.RefersTo record.pc (config.order.apply written)
            (config.start + 4 * UInt32.ofNat count) := by
  rw [← toOption_eq_some_iff, Session.toOption_image, Session.run_config] at finished
  obtain ⟨words, packed, rfl⟩ := Option.map_eq_some_iff.mp finished
  rw [← Array.getElem?_toList] at logged
  obtain ⟨word, hasWord, found⟩ := getElem?_of_wordsOf? packed logged
  refine ⟨config.order.apply word, ?_, ?_⟩
  · rw [List.getElem?_map, found]
    rfl
  · intro label waits
    obtain ⟨address, placed, right⟩ := Record.refersTo_of_word hasWord waits
    rw [ByteOrder.apply_apply]
    constructor
    · obtain ⟨count, placement, -⟩ := Session.address_run_eq_ok_iff.mp placed
      exact ⟨count, placement⟩
    · intro count placement
      have counted := Session.address_run_eq_ok_iff.mpr ⟨count, placement, rfl⟩
      rw [placed] at counted
      cases counted
      exact right

/-- A branch at the end of the address space goes forward to a label at address
zero. -/
theorem image_word_refersTo_label_around :
    let config : Config := ⟨0xFFFFFFF8, .little⟩
    let requests : List Request :=
      [.create none, .emit (.branch Opcode.beq 0 0 ⟨0⟩), .emit .nop, .place ⟨0⟩,
        .command (.jLabel ⟨0⟩)]
    ((Session.new config).run requests).image =
        .ok ⟨0xFFFFFFF8, .little, [0x01000010, 0, 0x00000008]⟩ ∧
      ((Session.new config).run requests).log[0]? =
        some ⟨0xFFFFFFF8, .branch Opcode.beq 0 0 ⟨0⟩⟩ ∧
      Session.PlacedAfter config requests ⟨0⟩ 2 ∧
      branchTarget 0xFFFFFFF8 (config.order.apply 0x01000010) = 0 := by
  intro config requests
  have finished : ((Session.new config).run requests).image =
      .ok ⟨0xFFFFFFF8, .little, [0x01000010, 0, 0x00000008]⟩ :=
    toOption_eq_some_iff.mp (by decide +kernel)
  have logged : ((Session.new config).run requests).log[0]? =
      some ⟨0xFFFFFFF8, .branch Opcode.beq 0 0 ⟨0⟩⟩ := by decide +kernel
  have placement : Session.PlacedAfter config requests ⟨0⟩ 2 :=
    ⟨requests.take 3, requests.drop 4, rfl, toOption_eq_some_iff.mp (by decide +kernel),
      by decide +kernel⟩
  obtain ⟨written, found, right⟩ := image_word_refersTo_label finished logged
  cases found
  have reached : branchTarget 0xFFFFFFF8 (config.order.apply 0x01000010) =
      config.start + 4 * UInt32.ofNat 2 := (right ⟨0⟩ rfl).2 2 placement
  exact ⟨finished, logged, placement, reached.trans (by decide)⟩

end Mips32
