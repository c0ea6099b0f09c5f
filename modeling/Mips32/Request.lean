/-
# Requests to a session

Everything that can be asked of a session, as data. A request that is refused
leaves the session as it was.
-/
import Mips32.Catalog
import Mips32.Command
import Mips32.Pseudo
import Mips32.Session

namespace Mips32

/-- Something asked of a session. -/
inductive Request
  /-- Create a label, with or without a name. -/
  | create (name : Option String)
  /-- Place a label at the current address. -/
  | place (label : Label)
  /-- Append any instruction. -/
  | emit (instr : Symbolic)
  /-- Append a machine instruction asked for by name. -/
  | command (command : Command)
  /-- Append the expansion of a pseudo-instruction. -/
  | pseudo (pseudo : Pseudo Label)
  /-- Append the instruction of a catalog entry. -/
  | entry (entry : Entry) (operands : List (Operand Label))

namespace Session

/-- Appends instructions, unless there is a cause to refuse them. -/
def append (session : Session) :
    Except EmissionError (List Symbolic) → Session × Except EmissionError Unit
  | .ok instrs => (session.emitAll instrs, .ok ())
  | .error error => (session, .error error)

/-- Goes on with the session of a label that was placed, if it was. -/
def adopt (session : Session) :
    Except AssemblyError Session → Session × Except EmissionError Unit
  | .ok placed => (placed, .ok ())
  | .error error => (session, .error (.assembly error))

/-- The session after a request, and whether the request was refused. -/
def perform (session : Session) : Request → Session × Except EmissionError Unit
  | .create name => (session.create name, .ok ())
  | .place label => session.adopt (session.place label)
  | .emit instr => session.append (.ok [instr])
  | .command command =>
    session.append (((command.instruction session.pc).mapError .assembly).map ([·]))
  | .pseudo pseudo => session.append (.ok pseudo.expand)
  | .entry entry operands =>
    session.append ((entry.instruction session.pc operands).map ([·]))

/-- The session after a sequence of requests; refused ones change nothing. -/
def run (session : Session) (requests : List Request) : Session :=
  requests.foldl (fun session request => (session.perform request).1) session

end Session

end Mips32
