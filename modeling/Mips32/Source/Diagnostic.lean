/-
# Diagnostics of assembly text

A diagnostic is a cause together with the places in the text it is charged to,
outermost place first.
-/
import Mips32.Catalog
import Mips32.Text.Quoted

namespace Mips32

/-- Why a piece of assembly text is refused. -/
inductive Cause
  | badLabelName (name : String)
  | emptyOperand (statement : String)
  | wordWithoutValues
  | registerExpected (text : String)
  | floatRegisterExpected (text : String)
  | unknownRegister (refusal : UnknownRegister)
  | badNumber (text : String)
  | numberOutOfRange (text : String)
  | addressOutOfRange (text : String)
  | wordOutOfRange (text : String)
  | badMemoryOperand (text : String)
  | badOperand (text : String)
  | labelExpected (text : String)
  | operandsExpected (form : String)
  | unknownMnemonic (mnemonic : String)
  | undefinedLabel (name : String)
  | labelRedefined (name : String) (address : UInt32)
  | emission (error : EmissionError)
  | assembly (error : AssemblyError)
  deriving DecidableEq

/-- The wording of a cause. -/
def Cause.message : Cause → String
  | badLabelName name => "bad label name: " ++ Text.quoted name
  | emptyOperand statement => "empty operand in " ++ Text.quoted statement
  | wordWithoutValues => ".word needs at least one value"
  | registerExpected text => "expected register, got " ++ Text.quoted text
  | floatRegisterExpected text => "expected fp register, got " ++ Text.quoted text
  | unknownRegister refusal => refusal.message
  | badNumber text => "bad immediate: " ++ Text.quoted text
  | numberOutOfRange text => "immediate out of range: " ++ text
  | addressOutOfRange text => "address out of range: " ++ text
  | wordOutOfRange text => ".word value out of range: " ++ text
  | badMemoryOperand text => "expected memory operand like off($reg): " ++ text
  | badOperand text => "bad operand: " ++ Text.quoted text
  | labelExpected text => "expected label, got " ++ Text.quoted text
  | operandsExpected form => "expected `" ++ form ++ "`"
  | unknownMnemonic mnemonic => "unknown mnemonic: " ++ mnemonic
  | undefinedLabel name => "undefined label `" ++ name ++ "`"
  | labelRedefined name address =>
    "label `" ++ name ++ "` already defined at " ++
      String.ofList (Text.hexAddress address)
  | emission error => error.message
  | assembly error => error.message

/-- A place in assembly text. -/
inductive Place
  /-- A line, counted from one, with its trimmed text. -/
  | line (number : Nat) (text : String)
  /-- The definition of a label. -/
  | label (name : String)
  deriving DecidableEq

/-- The wording of a place. -/
def Place.message : Place → String
  | line number text => "line " ++ Nat.repr number ++ ": " ++ text
  | label name => "label `" ++ name ++ "`"

/-- A cause and the places it is charged to, outermost first. -/
structure Diagnostic where
  places : List Place
  cause : Cause
  deriving DecidableEq

/-- The texts of a diagnostic, from the outermost place to the cause. -/
def Diagnostic.messages (diagnostic : Diagnostic) : List String :=
  diagnostic.places.map Place.message ++ [diagnostic.cause.message]

/-- Charges a diagnostic to a place around the ones it has. -/
def Diagnostic.within (diagnostic : Diagnostic) (place : Place) : Diagnostic :=
  { diagnostic with places := place :: diagnostic.places }

end Mips32
