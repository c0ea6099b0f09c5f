/-
# Running a command line

A run reads its files, assembles, renders and writes the result to one place. It
is described over a host, which says what reading, writing and printing are, so
that the same description runs on a machine and on a model of one. It is also
described over the libraries that read command lines and configuration files and
write reports. Each of these gives a result or says why there is none, and a run
relies on nothing else about them. Nothing is written unless everything before it
succeeded.
-/
import Mips32.CommandLine.Options
import Mips32.ConfigFile
import Mips32.Source.Session

namespace Mips32.CommandLine

/-- Why a file cannot be read or written. -/
inductive FileError
  | notFound
  | permissionDenied
  | notDirectory
  | isDirectory
  | nameTooLong
  | notText
  | other (text : String)
  deriving DecidableEq

/-- The wording of an error. -/
def FileError.message : FileError → String
  | notFound => "No such file or directory (os error 2)"
  | permissionDenied => "Permission denied (os error 13)"
  | notDirectory => "Not a directory (os error 20)"
  | isDirectory => "Is a directory (os error 21)"
  | nameTooLong => "File name too long (os error 36)"
  | notText => "stream did not contain valid UTF-8"
  | other text => text

/-- Why a run fails. -/
inductive Failure
  | readingConfig (path : String) (error : FileError)
  | parsingConfig (path : String) (cause : String)
  | reading (path : String) (error : FileError)
  | assembling (path : String) (diagnostic : Diagnostic)
  | rendering (cause : String)
  | writing (path : String) (error : FileError)
  | printing (error : FileError)
  deriving DecidableEq

/-- The texts of a failure, from the outermost to the cause. -/
def Failure.messages : Failure → List String
  | readingConfig path error => ["reading config " ++ path, error.message]
  | parsingConfig path cause => ["parsing config " ++ path, cause]
  | reading path error => ["reading " ++ path, error.message]
  | assembling path diagnostic => path :: diagnostic.messages
  | rendering cause => [cause]
  | writing path error => ["writing " ++ path, error.message]
  | printing error => [error.message]

/-- A text whose further lines are indented by `margin`. -/
def indented (margin : String) (text : String) : String :=
  String.intercalate ("\n" ++ margin)
    ((Text.cut '\n' text.toList).map String.ofList)

/-- A numbered cause. -/
def numberedCause (number : Nat) (cause : String) : String :=
  let digits := Nat.repr number
  "".pushn ' ' (5 - digits.length) ++ digits ++ ": " ++ indented "       " cause ++ "\n"

/-- The report of a failure: the outermost text, then the causes below it, which
are numbered if there are several. -/
def Failure.report (failure : Failure) : String :=
  match failure.messages with
  | [] => ""
  | [outermost] => "Error: " ++ outermost ++ "\n"
  | [outermost, cause] =>
    "Error: " ++ outermost ++ "\n\nCaused by:\n    " ++ indented "    " cause ++ "\n"
  | outermost :: causes =>
    "Error: " ++ outermost ++ "\n\nCaused by:\n" ++
      String.join (causes.zipIdx.map fun (cause, number) => numberedCause number cause)

/-- What a run needs of the machine it runs on. -/
structure Host (m : Type → Type) where
  /-- The contents of a file. -/
  read : String → m (Except FileError ByteArray)
  /-- Makes a file hold given bytes and nothing else. -/
  write : String → ByteArray → m (Except FileError Unit)
  /-- Writes to the standard output. -/
  print : ByteArray → m (Except FileError Unit)
  /-- Writes to the standard error. -/
  complain : String → m Unit

/-- The text of a file's contents. -/
def textOf (contents : Except FileError ByteArray) : Except FileError String := do
  match String.fromUTF8? (← contents) with
  | some text => return text
  | none => throw .notText

/-- The configuration of a run: each setting of the command line goes before that
of the configuration file. -/
def Options.override (options : Options) (config : Config) : Config :=
  ⟨options.start.getD config.start, options.order.getD config.order⟩

/-- Writes the result to the output file, or to the standard output. -/
def deliver {m : Type → Type} [Monad m] (host : Host m) (output : Option String)
    (bytes : ByteArray) : m (Except Failure Unit) := do
  match output with
  | none => return (← host.print bytes).mapError .printing
  | some path => return (← host.write path bytes).mapError (.writing path)

/-- What a command line comes to. -/
inductive Directive
  /-- Carry out the options. -/
  | assemble (options : Options)
  /-- Print a text that was asked for instead. -/
  | answer (text : String)
  /-- Do nothing, for the reason in the report. -/
  | refuse (report : String)

/-- The libraries a run is built on. -/
structure Libraries where
  /-- Reads a command line. -/
  readArguments : List String → Directive
  /-- Reads the text of a configuration file. -/
  readConfig : String → Except String Config
  /-- Writes a report. -/
  writeReport : Report → Except String String

namespace Libraries

variable {m : Type → Type} [Monad m]

/-- Reads the configuration file, if there is one. -/
def loadConfig (libraries : Libraries) (host : Host m) (options : Options) :
    m (Except Failure Config) :=
  match options.config with
  | none => return .ok (options.override ⟨0, .little⟩)
  | some path => do
    match textOf (← host.read path) with
    | .error error => return .error (.readingConfig path error)
    | .ok text =>
      match libraries.readConfig text with
      | .error cause => return .error (.parsingConfig path cause)
      | .ok config => return .ok (options.override config)

/-- Reads and assembles the input and renders the image. -/
def build (libraries : Libraries) (host : Host m) (options : Options) (config : Config) :
    m (Except Failure ByteArray) := do
  match textOf (← host.read options.input) with
  | .error error => return .error (.reading options.input error)
  | .ok text =>
    match assemble config text with
    | .error diagnostic => return .error (.assembling options.input diagnostic)
    | .ok image =>
      return (renderWith libraries.writeReport image options.format options.input).mapError
        .rendering

/-- Carries out the options of a command line. -/
def execute (libraries : Libraries) (host : Host m) (options : Options) :
    m (Except Failure Unit) := do
  match ← libraries.loadConfig host options with
  | .error failure => return .error failure
  | .ok config =>
    match ← libraries.build host options config with
    | .error failure => return .error failure
    | .ok bytes => deliver host options.output bytes

/-- Runs a command line and gives its exit status. A text that was asked for is
given up silently if it cannot be printed. -/
def run (libraries : Libraries) (host : Host m) (arguments : List String) : m UInt32 := do
  match libraries.readArguments arguments with
  | .refuse report => host.complain report; return 2
  | .answer text => let _ ← host.print text.toUTF8; return 0
  | .assemble options =>
    match ← libraries.execute host options with
    | .error failure => host.complain failure.report; return 1
    | .ok () => return 0

end Libraries

/-! ## The libraries of the program -/

/-- The line that names the program and its version. -/
def versionText : String := "mips-asm 0.1.0\n"

/-- How the program is called. -/
def usageText : String := "Usage: mips-asm [OPTIONS] <INPUT>\n"

/-- The explanation of the command line. -/
def helpText : String :=
  "MIPS32 assembler CLI\n\n" ++ usageText ++
    "\nArguments:\n" ++
    "  <INPUT>  Assembly source file\n" ++
    "\nOptions:\n" ++
    "  -o, --output <FILE>    Write output to file instead of stdout\n" ++
    "      --start <ADDR>     Address of the first instruction (hex or dec)\n" ++
    "      --endian <ENDIAN>  Byte order of the emitted words [possible values: little, big]\n" ++
    "      --format <FORMAT>  [default: hex] [possible values: bin, hex, json, listing]\n" ++
    "      --config <FILE>    JSON assembler config (\x7b \"start_pc\": .., " ++
    "\"endianness\": \"big\" \x7d); flags win\n" ++
    "  -h, --help             Print help\n" ++
    "  -V, --version          Print version\n"

/-- The report of a refused command line. -/
def UsageError.report (error : UsageError) : String :=
  "error: " ++ error.message ++ "\n\n" ++ usageText ++
    "\nFor more information, try '--help'.\n"

/-- Reads a command line and answers what it asks. -/
def readDirective (arguments : List String) : Directive :=
  match parse arguments with
  | .error error => .refuse error.report
  | .ok (.inquire .help) => .answer helpText
  | .ok (.inquire .version) => .answer versionText
  | .ok (.assemble options) => .assemble options

/-- The libraries of the program. -/
def Libraries.own : Libraries where
  readArguments := readDirective
  readConfig text := (ConfigFile.read text).mapError ConfigFault.message
  writeReport report := .ok report.json

/-- Runs a command line with the libraries of the program. -/
def run {m : Type → Type} [Monad m] (host : Host m) (arguments : List String) : m UInt32 :=
  Libraries.own.run host arguments

end Mips32.CommandLine
