/-
# Label tables

A label table holds one slot per label. A slot may have a name, given when the
label is created, and receives an address at most once.
-/
import Mips32.AssemblyError
import Mips32.Width

namespace Mips32

/-- A label's name, if it has one, and its address, once it is placed. -/
structure Slot where
  name : Option String
  address : Option UInt32
  deriving DecidableEq

/-- The slots of the labels, in the order of creation. -/
structure LabelTable where
  slots : Array Slot
  deriving DecidableEq

namespace LabelTable

/-- The table without labels. -/
def empty : LabelTable := ⟨#[]⟩

/-- The number of labels. -/
def size (table : LabelTable) : Nat := table.slots.size

/-- The handle that the next label will have. -/
def next (table : LabelTable) : Label := ⟨table.size⟩

/-- Adds a label that is not placed; its handle is `next`. -/
def create (table : LabelTable) (name : Option String) : LabelTable :=
  ⟨table.slots.push ⟨name, none⟩⟩

/-- The slot of a label. -/
def slot? (table : LabelTable) (label : Label) : Option Slot :=
  table.slots[label.index]?

/-- The name of a label. -/
def name? (table : LabelTable) (label : Label) : Option String :=
  (table.slot? label).bind (·.name)

/-- Where a label stands: placed at an address or not placed yet. -/
def state (table : LabelTable) (label : Label) : Except AssemblyError (Option UInt32) :=
  match table.slot? label with
  | none => .error (.labelForeign label)
  | some slot => .ok slot.address

/-- The address of a label that was placed. -/
def address (table : LabelTable) (label : Label) : Except AssemblyError UInt32 :=
  match table.slot? label with
  | none => .error (.labelForeign label)
  | some ⟨_, none⟩ => .error (.labelUnplaced label)
  | some ⟨_, some address⟩ => .ok address

/-- Whether a label was placed. -/
def isPlaced (table : LabelTable) (label : Label) : Bool :=
  ((table.slot? label).bind (·.address)).isSome

/-- Places a label. An address outside 32 bits is refused first, then a label of
another table, then a label that has an address already. -/
def bind (table : LabelTable) (label : Label) (address : Int) :
    Except AssemblyError LabelTable :=
  if IsUnsigned32 address then
    match table.slot? label with
    | none => .error (.labelForeign label)
    | some ⟨_, some earlier⟩ => .error (.labelPlacedTwice label earlier)
    | some ⟨name, none⟩ =>
      .ok ⟨table.slots.setIfInBounds label.index ⟨name, some (UInt32.ofNat address.toNat)⟩⟩
  else .error (.addressOutOfRange address)

/-- The labels that were not placed, in the order of creation. -/
def unplaced (table : LabelTable) : List Label :=
  ((List.range table.size).map Label.mk).filter fun label => !table.isPlaced label

end LabelTable

end Mips32
