/-
# Assembling text

A source session feeds statements to an assembly session. Labels are created
when they are first mentioned, so a branch may refer forward. Each record is
charged to the line that laid it down, and a failing record is reported with that
line. What a failing line did before its fault stays: labels it created or
placed, and words it laid down, which are charged to the next line that
succeeds.
-/
import Mips32.Session
import Mips32.Source.Meaning

namespace Mips32

/-- The state of the assembly of a text. -/
structure SourceSession where
  session : Session
  /-- The handles of the names mentioned so far. -/
  names : List (String × Label)
  /-- The trimmed lines read so far. -/
  lines : Array String
  /-- The line number of each record, for as many records as lines that succeeded
  account for. -/
  origin : Array Nat

namespace SourceSession

/-- The state before the first line. -/
def new (config : Config) : SourceSession :=
  ⟨.new config, [], #[], #[]⟩

/-- Creates the label of a name that is new. -/
def intern (source : SourceSession) (name : String) : SourceSession :=
  match source.names.lookup name with
  | some _ => source
  | none =>
    { source with
      session := source.session.create (some name)
      names := (name, source.session.labels.next) :: source.names }

/-- The handle of a name. A name that is not mentioned yet has the handle it would
be given next. -/
def handle (source : SourceSession) (name : String) : Label :=
  (source.names.lookup name).getD source.session.labels.next

/-- Label errors are told by the names of the labels. -/
def describe (source : SourceSession) : AssemblyError → Cause
  | .labelUnplaced label =>
    .undefinedLabel ((source.session.labels.name? label).getD "?")
  | .labelPlacedTwice label address =>
    .labelRedefined ((source.session.labels.name? label).getD "?") address
  | error => .assembly error

/-- Carries out what a statement means, once the labels it mentions are
created. -/
def carryOut (source : SourceSession) : Meaning → SourceSession × Except Diagnostic Unit
  | .define name =>
    match source.session.place (source.handle name) with
    | .ok session => ({ source with session }, .ok ())
    | .error error => (source, .error ⟨[.label name], source.describe error⟩)
  | .words values fault =>
    ({ source with session := source.session.emitAll (values.map .data) },
      match fault with
      | none => .ok ()
      | some cause => .error ⟨[], cause⟩)
  | .pseudo pseudo =>
    let instrs := (pseudo.map source.handle).expand
    ({ source with session := source.session.emitAll instrs }, .ok ())
  | .entry entry operands =>
    match entry.instruction source.session.pc (operands.map (·.map source.handle)) with
    | .ok instr => ({ source with session := source.session.emit instr }, .ok ())
    | .error error => (source, .error ⟨[], .emission error⟩)
  | .refused _ cause => (source, .error ⟨[], cause⟩)

/-- Carries out a statement. -/
def statement (source : SourceSession) (statement : Statement) :
    SourceSession × Except Diagnostic Unit :=
  (statement.meaning.mentioned.foldl intern source).carryOut statement.meaning

/-- Carries out statements up to the first one that fails. -/
def statements (source : SourceSession) :
    List Statement → SourceSession × Except Diagnostic Unit
  | [] => (source, .ok ())
  | first :: rest =>
    match source.statement first with
    | (source, .error diagnostic) => (source, .error diagnostic)
    | (source, .ok ()) => source.statements rest

/-- Charges the records that no line accounts for to a line. -/
def charge (source : SourceSession) (number : Nat) : SourceSession :=
  let uncharged := source.session.log.size - source.origin.size
  { source with origin := source.origin ++ Array.replicate uncharged number }

/-- Assembles one line. -/
def line (source : SourceSession) (text : String) :
    SourceSession × Except Diagnostic Unit :=
  let trimmed := Text.trimmed text
  let source := { source with lines := source.lines.push trimmed }
  let number := source.lines.size
  match Statement.parseLine text with
  | .error cause => (source, .error ⟨[.line number trimmed], cause⟩)
  | .ok statements =>
    match source.statements statements with
    | (source, .error diagnostic) =>
      (source, .error (diagnostic.within (.line number trimmed)))
    | (source, .ok ()) => (source.charge number, .ok ())

/-- The image of the text. A failing record is charged to its line. -/
def finish (source : SourceSession) : Except Diagnostic Image :=
  match source.session.image with
  | .ok image => .ok image
  | .error (index, error) =>
    let places :=
      match source.origin[index]? with
      | none => []
      | some number => [.line number (source.lines[number - 1]?.getD "")]
    .error ⟨places, source.describe error⟩

/-- Assembles lines up to the first one that fails. -/
def feed (source : SourceSession) : List String → Except Diagnostic SourceSession
  | [] => .ok source
  | text :: rest =>
    match source.line text with
    | (_, .error diagnostic) => .error diagnostic
    | (source, .ok ()) => source.feed rest

end SourceSession

/-- Assembles a text. -/
def assemble (config : Config) (text : String) : Except Diagnostic Image := do
  let lines := (Text.lines text.toList).map String.ofList
  (← (SourceSession.new config).feed lines).finish

end Mips32
