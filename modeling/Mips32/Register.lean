/-
# Registers

General purpose registers, named by their role in the calling convention, and
the registers of the floating point coprocessor.
-/
import Mips32.Text.Blank
import Mips32.Text.Numeral

namespace Mips32

/-- A general purpose register. -/
structure Reg where
  id : Fin 32
  deriving DecidableEq

/-- A floating point register. Only numbers below 32 exist; a larger number can
be asked for and is refused when the instruction is packed. -/
structure FReg where
  id : Nat
  deriving DecidableEq

/-- A register text that names no register. -/
structure UnknownRegister where
  text : String
  deriving DecidableEq

/-- The wording of the refusal. -/
def UnknownRegister.message (refusal : UnknownRegister) : String :=
  "unknown register: " ++ refusal.text

/-- A leading dollar sign is optional in register texts. -/
def dropDollar : List Char → List Char
  | '$' :: rest => rest
  | text => text

namespace Reg

/-- Reads as zero and ignores writes. -/
def zero : Reg := ⟨0⟩

/-- The register that expansions use for intermediate results. -/
def temporary : Reg := ⟨1⟩

/-- The frame pointer. -/
def fp : Reg := ⟨30⟩

/-- The return address. -/
def ra : Reg := ⟨31⟩

/-- The names in the order of the register numbers. -/
def names : Vector String 32 :=
  #v["zero", "at", "v0", "v1", "a0", "a1", "a2", "a3",
    "t0", "t1", "t2", "t3", "t4", "t5", "t6", "t7",
    "s0", "s1", "s2", "s3", "s4", "s5", "s6", "s7",
    "t8", "t9", "k0", "k1", "gp", "sp", "fp", "ra"]

/-- The name of a register, without the dollar sign. -/
def name (reg : Reg) : String :=
  names.get reg.id

/-- A register as it is written in assembly text. -/
def written (reg : Reg) : String :=
  "$" ++ reg.name

/-- The register with a given number. -/
def ofNat? (id : Nat) : Option Reg :=
  if bound : id < 32 then some ⟨⟨id, bound⟩⟩ else none

/-- The register with a given name; `s8` is another name of the frame pointer. -/
def ofName? (name : List Char) : Option Reg :=
  if name = ['s', '8'] then some fp
  else ((List.finRange 32).find? fun id => (names.get id).toList = name).map Reg.mk

/-- Reads a register text: blanks around it and one leading dollar sign are
dropped, then it is a number of at most eight bits or a name, in which ASCII
case does not matter. -/
def read? (text : String) : Option Reg :=
  let bare := (dropDollar (Text.trim text.toList)).map Char.toLower
  match Text.readNat 10 255 bare with
  | .ok id => ofNat? id
  | .error _ => ofName? bare

/-- Reads a register text. -/
def read (text : String) : Except UnknownRegister Reg :=
  match read? text with
  | some reg => .ok reg
  | none => .error ⟨text⟩

end Reg

namespace FReg

/-- The register that fills a field an instruction does not use. -/
def zero : FReg := ⟨0⟩

/-- A register as it is written in assembly text. -/
def written (reg : FReg) : String :=
  "$f" ++ Nat.repr reg.id

/-- The register with a given number. -/
def ofNat? (id : Nat) : Option FReg :=
  if id < 32 then some ⟨id⟩ else none

/-- Reads a register text: blanks around it and one leading dollar sign are
dropped, then it is a lower case `f` and a number. -/
def read? (text : String) : Option FReg :=
  match dropDollar (Text.trim text.toList) with
  | 'f' :: digits =>
    match Text.readNat 10 255 digits with
    | .ok id => ofNat? id
    | .error _ => none
  | _ => none

/-- Reads a register text. -/
def read (text : String) : Except UnknownRegister FReg :=
  match read? text with
  | some reg => .ok reg
  | none => .error ⟨text⟩

end FReg

end Mips32
