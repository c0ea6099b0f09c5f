/-
# Command line options

The command line names one input and any of five settings, each at most once. A
setting is written `--name value` or `--name=value`; the output file also has the
short forms `-o value`, `-ovalue` and `-o=value`. Two dashes alone end the
settings. A setting whose value follows as an argument of its own is checked when
the next argument is recognised or the arguments end, so an argument that is not
recognised is reported before a bad value right in front of it.
-/
import Mips32.Literal
import Mips32.Report
import Mips32.Text.ControlSequence

namespace Mips32.CommandLine

/-- What the command line can set. -/
inductive Setting
  | output
  | start
  | endian
  | format
  | config
  deriving DecidableEq

/-- A setting as messages show it. -/
def Setting.written : Setting → String
  | output => "--output <FILE>"
  | start => "--start <ADDR>"
  | endian => "--endian <ENDIAN>"
  | format => "--format <FORMAT>"
  | config => "--config <FILE>"

/-- The setting with a given long name. -/
def Setting.ofName? : String → Option Setting
  | "output" => some output
  | "start" => some start
  | "endian" => some endian
  | "format" => some format
  | "config" => some config
  | _ => none

/-- What the command line asks for. -/
structure Options where
  input : String
  output : Option String
  start : Option UInt32
  order : Option ByteOrder
  format : Format
  config : Option String
  deriving DecidableEq

/-- A request for information instead of an assembly. -/
inductive Inquiry
  | help
  | version
  deriving DecidableEq

/-- The long name of an inquiry. -/
def Inquiry.written : Inquiry → String
  | help => "--help"
  | version => "--version"

/-- What a command line amounts to. -/
inductive Invocation
  | inquire (inquiry : Inquiry)
  | assemble (options : Options)
  deriving DecidableEq

/-- Why a command line is refused. -/
inductive UsageError
  | inputMissing
  | unexpected (argument : String)
  | unexpectedValue (inquiry : Inquiry) (value : String)
  | valueMissing (setting : Setting)
  | repeated (setting : Setting)
  | badAddress (value : String) (fault : Text.NumeralFault)
  | badChoice (setting : Setting) (value : String)
  deriving DecidableEq

/-- The wording of an error. An empty choice counts as a missing value. What is
repeated of the command line is shown without terminal control. -/
def UsageError.message : UsageError → String
  | inputMissing => "the following required arguments were not provided:\n  <INPUT>"
  | unexpected argument => "unexpected argument '" ++ Text.withoutControl argument ++ "' found"
  | unexpectedValue inquiry value =>
    "unexpected value '" ++ Text.withoutControl value ++ "' for '" ++ inquiry.written ++
      "' found; no more were expected"
  | valueMissing setting =>
    "a value is required for '" ++ setting.written ++ "' but none was supplied"
  | repeated setting =>
    "the argument '" ++ setting.written ++ "' cannot be used multiple times"
  | badAddress value fault =>
    "invalid value '" ++ Text.withoutControl value ++ "' for '" ++ Setting.start.written ++ "': " ++
      fault.message
  | badChoice setting value =>
    if value.isEmpty then
      "a value is required for '" ++ setting.written ++ "' but none was supplied"
    else "invalid value '" ++ Text.withoutControl value ++ "' for '" ++ setting.written ++ "'"

/-- What was read of a command line so far. -/
structure Draft where
  input : Option String := none
  output : Option String := none
  start : Option UInt32 := none
  order : Option ByteOrder := none
  format : Option Format := none
  config : Option String := none
  /-- A setting that is not checked yet, with its value if that was read. -/
  pending : Option (Setting × Option String) := none

namespace Draft

/-- Whether a setting has a value already. -/
def has (draft : Draft) : Setting → Bool
  | .output => draft.output.isSome
  | .start => draft.start.isSome
  | .endian => draft.order.isSome
  | .format => draft.format.isSome
  | .config => draft.config.isSome

/-- Gives a setting its value. -/
def assign (draft : Draft) (setting : Setting) (value : String) : Except UsageError Draft :=
  if draft.has setting then .error (.repeated setting)
  else
    match setting with
    | .output => .ok { draft with output := some value }
    | .config => .ok { draft with config := some value }
    | .start =>
      match Literal.readAddress value.toList with
      | .ok address => .ok { draft with start := some address }
      | .error fault => .error (.badAddress value fault)
    | .endian =>
      match ByteOrder.ofName? value with
      | some order => .ok { draft with order := some order }
      | none => .error (.badChoice .endian value)
    | .format =>
      match Format.ofName? value with
      | some format => .ok { draft with format := some format }
      | none => .error (.badChoice .format value)

/-- Checks the pending setting. -/
def settle (draft : Draft) : Except UsageError Draft :=
  match draft.pending with
  | none => .ok draft
  | some (setting, none) => .error (.valueMissing setting)
  | some (setting, some value) => { draft with pending := none }.assign setting value

/-- Takes a setting with the value attached to it, or waits for the value. -/
def takeSetting (draft : Draft) (setting : Setting) (attached : Option String) :
    Except UsageError Draft := do
  let draft ← draft.settle
  match attached with
  | some value => draft.assign setting value
  | none => return { draft with pending := some (setting, none) }

/-- Takes an argument that is no setting: the value of the setting that waits for
one, or the input. -/
def takePlain (draft : Draft) (argument : String) : Except UsageError Draft :=
  match draft.pending with
  | some (setting, none) => .ok { draft with pending := some (setting, some argument) }
  | _ =>
    match draft.input with
    | some _ => .error (.unexpected argument)
    | none => do return { ← draft.settle with input := some argument }

/-- The options of a command line that was read to its end. -/
def finish (draft : Draft) : Except UsageError Options := do
  let draft ← draft.settle
  match draft.input with
  | none => throw .inputMissing
  | some input =>
    return ⟨input, draft.output, draft.start, draft.order, draft.format.getD .hex,
      draft.config⟩

end Draft

/-- An argument by its form. -/
inductive Argument
  /-- Two dashes alone. -/
  | separator
  /-- A long name with the value attached to it. -/
  | long (name : String) (attached : Option String)
  /-- Short names after one dash. -/
  | short (name : Char) (rest : List Char)
  /-- Anything else. -/
  | plain (text : String)

/-- Splits a long argument at its first equals sign. -/
def splitLong (text : List Char) : Argument :=
  let name := String.ofList (text.takeWhile (· ≠ '='))
  match text.dropWhile (· ≠ '=') with
  | [] => .long name none
  | _ :: value => .long name (some (String.ofList value))

/-- The form of an argument. -/
def Argument.ofString (argument : String) : Argument :=
  match argument.toList with
  | ['-', '-'] => .separator
  | '-' :: '-' :: text => splitLong text
  | '-' :: name :: rest => .short name rest
  | _ => .plain argument

/-- The value attached to a short name; an equals sign in front of it is
optional. -/
def shortValue? : List Char → Option String
  | [] => none
  | '=' :: value => some (String.ofList value)
  | value => some (String.ofList value)

/-- Reads arguments after which only inputs follow. -/
def parseInputs (draft : Draft) : List String → Except UsageError Draft
  | [] => .ok draft
  | argument :: rest =>
    match draft.input with
    | some _ => .error (.unexpected argument)
    | none => do parseInputs { ← draft.settle with input := some argument } rest

/-- Answers an inquiry once the settings before it are checked. -/
def inquire (draft : Draft) (inquiry : Inquiry) : Except UsageError Invocation := do
  let _ ← draft.settle
  return .inquire inquiry

/-- The inquiry with a given long name. -/
def Inquiry.ofName? : String → Option Inquiry
  | "help" => some help
  | "version" => some version
  | _ => none

/-- Reads arguments after those already read. -/
def parseFrom (draft : Draft) : List String → Except UsageError Invocation
  | [] => do return .assemble (← draft.finish)
  | argument :: rest =>
    match Argument.ofString argument with
    | .separator => do return .assemble (← (← parseInputs draft rest).finish)
    | .long name attached =>
      match Setting.ofName? name, Inquiry.ofName? name, attached with
      | some setting, _, _ => do parseFrom (← draft.takeSetting setting attached) rest
      | none, some inquiry, some value => .error (.unexpectedValue inquiry value)
      | none, some inquiry, none => inquire draft inquiry
      | none, none, _ => .error (.unexpected ("--" ++ name))
    | .short 'o' value => do parseFrom (← draft.takeSetting .output (shortValue? value)) rest
    | .short 'h' _ => inquire draft .help
    | .short 'V' _ => inquire draft .version
    | .short name _ => .error (.unexpected (String.ofList ['-', name]))
    | .plain text => do parseFrom (← draft.takePlain text) rest

/-- Reads a command line. -/
def parse (arguments : List String) : Except UsageError Invocation :=
  parseFrom {} arguments

end Mips32.CommandLine
