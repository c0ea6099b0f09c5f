/-
# Assembly sessions

A session appends instructions at consecutive addresses and creates and places
labels. Instructions that depend on labels stay symbolic in the log; finishing
the session resolves and packs every record and leaves the session as it is.
Addresses wrap around at the end of the 32-bit address space.
-/
import Mips32.Encoding
import Mips32.Image
import Mips32.Resolution

namespace Mips32

/-- Where an image starts and how its words are written. -/
structure Config where
  start : UInt32 := 0
  order : ByteOrder := .little
  deriving DecidableEq

/-- An instruction in the log, with the address it occupies. -/
structure Record where
  pc : UInt32
  instr : Symbolic
  deriving DecidableEq

/-- The packed word of a record, before the byte order is applied. -/
def Record.word (record : Record) (labels : LabelTable) : Except AssemblyError UInt32 := do
  (← record.instr.resolve record.pc labels).encode

/-- The state of an assembly. -/
structure Session where
  config : Config
  /-- The address of the next instruction. -/
  pc : UInt32
  log : Array Record
  labels : LabelTable
  deriving DecidableEq

/-- Appends the words of records to those already packed, or gives the position
and the error of the first record that cannot be packed. The number of words
already packed is the position of the next record. -/
def packRecords (order : ByteOrder) (labels : LabelTable) :
    Array UInt32 → List Record → Except (Nat × AssemblyError) (Array UInt32)
  | words, [] => .ok words
  | words, record :: rest =>
    match record.word labels with
    | .error error => .error (words.size, error)
    | .ok word => packRecords order labels (words.push (order.apply word)) rest

namespace Session

/-- The session before the first instruction. -/
def new (config : Config) : Session :=
  ⟨config, config.start, #[], .empty⟩

/-- Appends an instruction at the current address. -/
def emit (session : Session) (instr : Symbolic) : Session :=
  { session with
    pc := session.pc + 4
    log := session.log.push ⟨session.pc, instr⟩ }

/-- Appends instructions in order. -/
def emitAll (session : Session) (instrs : List Symbolic) : Session :=
  instrs.foldl emit session

/-- Creates a label, whose handle is the next one of the table. -/
def create (session : Session) (name : Option String) : Session :=
  { session with labels := session.labels.create name }

/-- Places a label at the current address. -/
def place (session : Session) (label : Label) : Except AssemblyError Session := do
  let labels ← session.labels.bind label session.pc.toNat
  return { session with labels }

/-- The image of the session, or the first record that has none with its
error. -/
def image (session : Session) : Except (Nat × AssemblyError) Image := do
  let words ← packRecords session.config.order session.labels #[] session.log.toList
  return ⟨session.config.start, session.config.order, words.toList⟩

end Session

end Mips32
