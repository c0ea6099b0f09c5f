/-
# Images of a growing session

A record depends on the label table through one address, that of the label it waits
for. A session only grows and an address is never changed, so the outcome of packing a
record is final unless a label was missing: going on with the session changes neither a
word nor an error of any other kind. Hence the image of a session is the beginning of
every later image, and an error that is not about a missing label is there to stay.
-/
import Mips32.Proofs.History
import Mips32.Proofs.Image
import Mips32.Proofs.Packing

namespace Mips32

/-- The errors that may go away, because the label they name is created or placed
later. -/
def AssemblyError.MissesLabel : AssemblyError → Prop
  | labelUnplaced _ | labelForeign _ => True
  | _ => False

theorem LabelTable.missesLabel_of_address {table : LabelTable} {label : Label}
    {error : AssemblyError} (missing : table.address label = .error error) :
    error.MissesLabel := by
  rcases address_eq_error missing with rfl | rfl
  · trivial
  · trivial

/-! ## Records -/

/-- Resolving an instruction looks at the address of its label only. -/
theorem Symbolic.resolve_congr {instr : Symbolic} {first second : LabelTable}
    (same : ∀ label ∈ instr.label?, first.address label = second.address label)
    (pc : UInt32) : instr.resolve pc first = instr.resolve pc second := by
  cases instr with
  | immediate opcode rs rt value =>
      cases value with
      | literal value => rfl
      | branch label | high label | low label =>
          have sameAddress : first.address label = second.address label := same label rfl
          simp only [Symbolic.resolve, Immediate.resolve, sameAddress]
  | jump opcode target =>
      cases target with
      | index position => rfl
      | label label =>
          have sameAddress : first.address label = second.address label := same label rfl
          simp only [Symbolic.resolve, Target.resolve, sameAddress]
  | register | trap | float | data | nop => rfl

/-- An instruction that waits for a missing label is refused for that label. -/
theorem Symbolic.resolve_of_missing {instr : Symbolic} {labels : LabelTable} {label : Label}
    {error : AssemblyError} (waits : instr.label? = some label)
    (missing : labels.address label = .error error) (pc : UInt32) :
    instr.resolve pc labels = .error error := by
  cases instr with
  | immediate opcode rs rt value =>
      cases value with
      | literal value => cases waits
      | branch target | high target | low target =>
          cases waits
          simp only [Symbolic.resolve, Immediate.resolve, missing]
          rfl
  | jump opcode target =>
      cases target with
      | index position => cases waits
      | label target =>
          cases waits
          simp only [Symbolic.resolve, Target.resolve, missing]
          rfl
  | register | trap | float | data | nop => cases waits

/-- A record keeps its word or its error in a later table, unless it lacks a label. -/
theorem Record.word_of_extends {record : Record} {table after : LabelTable}
    (grown : table.Extends after)
    (settled : ∀ error, record.word table = .error error → ¬ error.MissesLabel) :
    record.word after = record.word table := by
  have resolved : record.instr.resolve record.pc after =
      record.instr.resolve record.pc table := by
    apply Symbolic.resolve_congr
    intro label waits
    cases placed : table.address label with
    | ok address => exact grown.address placed
    | error error =>
        have unresolved := Symbolic.resolve_of_missing waits placed record.pc
        have refused : record.word table = .error error :=
          bind_eq_error_iff.mpr (.inl unresolved)
        exact absurd (LabelTable.missesLabel_of_address placed) (settled error refused)
  rw [Record.word, Record.word, resolved]

theorem Record.word_ok_of_extends {record : Record} {table after : LabelTable}
    (grown : table.Extends after) {word : UInt32} (packed : record.word table = .ok word) :
    record.word after = .ok word := by
  rw [← packed]
  apply Record.word_of_extends grown
  intro error failed
  rw [packed] at failed
  cases failed

theorem wordsOf?_of_extends {table after : LabelTable} (grown : table.Extends after)
    {records : List Record} {words : List UInt32} (packed : wordsOf? table records = some words) :
    wordsOf? after records = some words := by
  induction records generalizing words with
  | nil => exact packed
  | cons record rest ih =>
      rw [wordsOf?_cons, Option.bind_eq_some_iff] at packed
      obtain ⟨word, hasWord, packed⟩ := packed
      obtain ⟨more, packedRest, rfl⟩ := Option.map_eq_some_iff.mp packed
      rw [toOption_eq_some_iff] at hasWord
      rw [wordsOf?_cons, Record.word_ok_of_extends grown hasWord, ih packedRest]
      rfl

/-! ## Sessions -/

namespace Session

/-- The records that a session held earlier have their words at the beginning of the
image. -/
theorem words_of_earlier {session after : Session} (grown : session.Extends after)
    {image : Image} (finished : after.image = .ok image) :
    ∃ words, wordsOf? after.labels session.log.toList = some words ∧
      words.length = session.log.size ∧ words.map after.config.order.apply <+: image.words := by
  obtain ⟨added, logged⟩ := grown.log
  rw [← toOption_eq_some_iff, toOption_image, ← logged, wordsOf?_append] at finished
  obtain ⟨all, packed, rfl⟩ := Option.map_eq_some_iff.mp finished
  obtain ⟨words, packedFront, joined⟩ := Option.bind_eq_some_iff.mp packed
  obtain ⟨more, -, rfl⟩ := Option.map_eq_some_iff.mp joined
  refine ⟨words, packedFront, length_of_wordsOf? packedFront, ?_⟩
  rw [List.map_append]
  exact List.prefix_append _ _

/-- The image of a later state begins with the image of the session. -/
theorem image_of_extends {session after : Session} (grown : session.Extends after)
    {image final : Image} (finished : session.image = .ok image)
    (finishedLater : after.image = .ok final) :
    image.words <+: final.words ∧ image.start = final.start ∧ image.order = final.order := by
  obtain ⟨words, packed, -, beginning⟩ := words_of_earlier grown finishedLater
  rw [← toOption_eq_some_iff, toOption_image] at finished finishedLater
  obtain ⟨early, packedEarly, rfl⟩ := Option.map_eq_some_iff.mp finished
  obtain ⟨all, -, rfl⟩ := Option.map_eq_some_iff.mp finishedLater
  rw [wordsOf?_of_extends grown.labels packedEarly] at packed
  cases packed
  rw [grown.config] at beginning ⊢
  exact ⟨beginning, rfl, rfl⟩

/-- A later state blames the record that the session blames, for the same error, unless
a label was missing. -/
theorem image_error_of_extends {session after : Session} (grown : session.Extends after)
    {index : Nat} {error : AssemblyError} (failed : session.image = .error (index, error))
    (final : ¬ error.MissesLabel) : after.image = .error (index, error) := by
  obtain ⟨added, logged⟩ := grown.log
  obtain ⟨record, listed, refused, packed⟩ := image_eq_error_iff.mp failed
  have inside : index < session.log.toList.length := (Array.getElem?_eq_some_iff.mp listed).1
  rw [image_eq_error_iff, ← Array.getElem?_toList, ← logged,
    List.getElem?_append_left inside, List.take_append_of_le_length (Nat.le_of_lt inside)]
  refine ⟨record, Array.getElem?_toList.trans listed, ?_, ?_⟩
  · rw [← refused]
    apply Record.word_of_extends grown.labels
    intro cause failedToo
    rw [refused] at failedToo
    cases failedToo
    exact final
  · intro earlier before
    obtain ⟨word, hasWord⟩ := packed earlier before
    exact ⟨word, Record.word_ok_of_extends grown.labels hasWord⟩

/-- However a session goes on, its image, if it has one, is the beginning of the later
image, with the same start and byte order. If it has none for a record whose label is
not what is missing, then later there is none either, for the same record and the same
error. -/
theorem image_stable (config : Config) (requests more : List Request) :
    let session := (Session.new config).run requests
    let later := session.run more
    (∀ image final, session.image = .ok image → later.image = .ok final →
        image.words <+: final.words ∧ image.start = final.start ∧ image.order = final.order) ∧
      ∀ index error, session.image = .error (index, error) → ¬ error.MissesLabel →
        later.image = .error (index, error) := by
  intro session later
  have grown : session.Extends later := session.extends_run more
  constructor
  · exact fun image final finished finishedLater => image_of_extends grown finished finishedLater
  · exact fun index error failed settled => image_error_of_extends grown failed settled

/-- A finished branch keeps its word while a second label is created, used and placed,
and an immediate that is too large stays so behind it. -/
theorem image_stable_beyond_label :
    let config : Config := ⟨0x400000, .big⟩
    let branch : List Request := [.create none, .place ⟨0⟩, .command (.beq .zero .zero ⟨0⟩)]
    let large : List Request := branch ++ [.command (.addi .zero .zero 0x10000)]
    let more : List Request := [.create none, .command (.jLabel ⟨1⟩), .place ⟨1⟩]
    let session := (Session.new config).run branch
    let stuck := (Session.new config).run large
    (∃ image final, session.image = .ok image ∧ (session.run more).image = .ok final ∧
        image.words = [0x1000FFFF] ∧ image.words <+: final.words) ∧
      stuck.image = .error (1, .outOfRange .immediate 0x10000) ∧
      (stuck.run more).image = .error (1, .outOfRange .immediate 0x10000) := by
  intro config branch large more session stuck
  have finished : session.image = .ok ⟨0x400000, .big, [0x1000FFFF]⟩ :=
    toOption_eq_some_iff.mp (by decide +kernel)
  have finishedLater : (session.run more).image =
      .ok ⟨0x400000, .big, [0x1000FFFF, 0x08100002]⟩ :=
    toOption_eq_some_iff.mp (by decide +kernel)
  have failed : stuck.image = .error (1, .outOfRange .immediate 0x10000) :=
    cause?_eq_some_iff.mp (by decide +kernel)
  have stable := (image_stable config branch more).1 _ _ finished finishedLater
  have stays := (image_stable config large more).2 _ _ failed id
  exact ⟨⟨_, _, finished, finishedLater, rfl, stable.1⟩, failed, stays⟩

end Session

end Mips32
