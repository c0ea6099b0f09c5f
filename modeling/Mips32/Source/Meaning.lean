/-
# What statements mean

The meaning of a statement is what it asks for, with labels by name. It depends
on the text of the statement alone; label handles and addresses come in when the
statement is carried out. A refused statement may have mentioned labels before
the fault, and data words before a bad value count.
-/
import Mips32.Literal
import Mips32.Pseudo
import Mips32.Source.Statement

namespace Mips32

/-- What a statement asks for. -/
inductive Meaning
  /-- Define a label here. -/
  | define (name : String)
  /-- Lay down words; a fault, if there is one, comes after them. -/
  | words (values : List UInt32) (fault : Option Cause)
  /-- Expand a pseudo-instruction. -/
  | pseudo (pseudo : Pseudo String)
  /-- Lay down the instruction of a catalog entry. -/
  | entry (entry : Entry) (operands : List (Operand String))
  /-- Nothing, for the given cause, after mentioning labels. -/
  | refused (mentioned : List String) (cause : Cause)
  deriving DecidableEq

/-- The labels a statement mentions, in the order in which it does. -/
def Meaning.mentioned : Meaning → List String
  | define name => [name]
  | words .. => []
  | pseudo instr => instr.label?.toList
  | entry _ operands => operands.filterMap Operand.label?
  | refused mentioned _ => mentioned

namespace Source

/-- Reads a general purpose register, which needs its dollar sign. -/
def readReg (text : String) : Except Cause Reg :=
  if text.toList.head? = some '$' then (Reg.read text).mapError .unknownRegister
  else .error (.registerExpected text)

/-- Reads a floating point register, which needs its dollar sign. -/
def readFReg (text : String) : Except Cause FReg :=
  if text.toList.head? = some '$' then (FReg.read text).mapError .unknownRegister
  else .error (.floatRegisterExpected text)

/-- Reads a number. -/
def readNumber (text : String) : Except Cause Int :=
  match Literal.read? text.toList with
  | some value => .ok value
  | none => .error (.badNumber text)

/-- Reads a signed number of 32 bits. -/
def readSigned32 (text : String) : Except Cause Int := do
  let value ← readNumber text
  if IsSigned32 value then return value else throw (.numberOutOfRange text)

/-- Reads the name of a label. -/
def readLabel (text : String) : Except Cause String :=
  if isIdentifier text.toList then .ok text else .error (.labelExpected text)

/-- The word of a number that fits 32 bits with or without a sign. -/
def word32? (value : Int) : Option UInt32 :=
  if IsUnsigned32 value ∨ IsSigned32 value then some (UInt32.ofInt value) else none

/-- Reads a memory operand: an offset, which may be left out, and a base register
in parentheses. The base ends at the last closing parenthesis, and what follows
it is not looked at. -/
def readMemory (text : String) : Except Cause (Operand String) :=
  let offset := text.toList.takeWhile (· ≠ '(')
  let inner := (text.toList.dropWhile (· ≠ '(')).drop 1
  match inner.reverse.dropWhile (· ≠ ')') with
  | [] => .error (.badMemoryOperand text)
  | _ :: reversedBase => do
    let offset := Text.trim offset
    let value ← if offset.isEmpty then pure 0 else readNumber (String.ofList offset)
    let base ← readReg (String.ofList (Text.trim reversedBase.reverse))
    return .memory value base

/-- Whether the text after a dollar sign has the form of a floating point
register: an `f` and digits. -/
def looksFloat : List Char → Bool
  | 'f' :: digits => !digits.isEmpty && digits.all Char.isDigit
  | _ => false

/-- Reads an operand: a memory operand if there is a parenthesis, a register if
there is a dollar sign in front, otherwise a number or the name of a label. -/
def readOperand (text : String) : Except Cause (Operand String) :=
  if '(' ∈ text.toList then readMemory text
  else
    match text.toList with
    | '$' :: bare =>
      if looksFloat bare then Operand.freg <$> readFReg text
      else Operand.reg <$> readReg text
    | _ =>
      match Literal.read? text.toList with
      | some value => .ok (.number value)
      | none =>
        if isIdentifier text.toList then .ok (.label text) else .error (.badOperand text)

/-- Reads operands up to the first fault. -/
def readOperands : List String → List (Operand String) × Option Cause
  | [] => ([], none)
  | text :: rest =>
    match readOperand text with
    | .error cause => ([], some cause)
    | .ok operand =>
      let (operands, fault) := readOperands rest
      (operand :: operands, fault)

/-- Reads data words up to the first fault. -/
def readWords : List String → List UInt32 × Option Cause
  | [] => ([], none)
  | text :: rest =>
    match readNumber text with
    | .error cause => ([], some cause)
    | .ok value =>
      match word32? value with
      | none => ([], some (.wordOutOfRange text))
      | some word =>
        let (words, fault) := readWords rest
        (word :: words, fault)

/-- Two registers and a label. -/
def readCompareBranch (make : Reg → Reg → String → Pseudo String) :
    List String → Except Cause (Pseudo String)
  | [rs, rt, target] => return make (← readReg rs) (← readReg rt) (← readLabel target)
  | _ => .error (.operandsExpected "bxx rs, rt, label")

/-- A destination and a source. -/
def readUnary (make : Reg → Reg → Pseudo String) :
    List String → Except Cause (Pseudo String)
  | [rd, rs] => return make (← readReg rd) (← readReg rs)
  | _ => .error (.operandsExpected "op rd, rs")

/-- A destination and two sources. -/
def readBinary (make : Reg → Reg → Reg → Pseudo String) :
    List String → Except Cause (Pseudo String)
  | [rd, rs, rt] => return make (← readReg rd) (← readReg rs) (← readReg rt)
  | _ => .error (.operandsExpected "op rd, rs, rt")

/-- A label. -/
def readBranch : List String → Except Cause (Pseudo String)
  | [target] => return .b (← readLabel target)
  | _ => .error (.operandsExpected "b label")

/-- A destination and a number. -/
def readLoadImmediate : List String → Except Cause (Pseudo String)
  | [rd, value] => return .li (← readReg rd) (← readSigned32 value)
  | _ => .error (.operandsExpected "li rd, imm")

/-- A destination and a number or a label. -/
def readLoadAddress : List String → Except Cause (Pseudo String)
  | [rd, address] => do
    let rd ← readReg rd
    match Literal.read? address.toList with
    | some value =>
      match word32? value with
      | some word => return .la rd word
      | none => throw (.addressOutOfRange address)
    | none => return .laLabel rd (← readLabel address)
  | _ => .error (.operandsExpected "la rd, address|label")

/-- Reads a pseudo-instruction, if the mnemonic is one. -/
def readPseudo? (mnemonic : String) (operands : List String) :
    Option (Except Cause (Pseudo String)) :=
  match mnemonic with
  | "b" => some (readBranch operands)
  | "blt" => some (readCompareBranch .blt operands)
  | "bge" => some (readCompareBranch .bge operands)
  | "bgt" => some (readCompareBranch .bgt operands)
  | "ble" => some (readCompareBranch .ble operands)
  | "neg" => some (readUnary .neg operands)
  | "not" => some (readUnary .not operands)
  | "move" => some (readUnary .move operands)
  | "sge" => some (readBinary .sge operands)
  | "sgt" => some (readBinary .sgt operands)
  | "li" => some (readLoadImmediate operands)
  | "la" => some (readLoadAddress operands)
  | _ => none

end Source

/-- The meaning of a statement. Pseudo-instructions go before the catalog. -/
def Statement.meaning : Statement → Meaning
  | label name => .define name
  | word values =>
    let (words, fault) := Source.readWords values
    .words words fault
  | instr mnemonic operands =>
    match Source.readPseudo? mnemonic operands with
    | some (.ok pseudo) => .pseudo pseudo
    | some (.error cause) => .refused [] cause
    | none =>
      match Entry.find? mnemonic with
      | none => .refused [] (.unknownMnemonic mnemonic)
      | some entry =>
        match Source.readOperands operands with
        | (operands, none) => .entry entry operands
        | (operands, some cause) => .refused (operands.filterMap Operand.label?) cause

end Mips32
