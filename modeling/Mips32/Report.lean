/-
# Output formats

An image is written as its bytes, as hexadecimal text, as a listing, or as a
report that also names the input. What a report says is fixed here, and how it is
written is left to a writer of reports, which may fail. The writer of this library
writes JSON and never fails.
-/
import Mips32.Image
import Mips32.Text.Json

namespace Mips32

/-- How an image is written. -/
inductive Format
  | bin
  | hex
  | json
  | listing
  deriving DecidableEq

/-- The format with a given name. -/
def Format.ofName? : String → Option Format
  | "bin" => some bin
  | "hex" => some hex
  | "json" => some json
  | "listing" => some listing
  | _ => none

/-- What a report says. -/
structure Report where
  start : UInt32
  finish : UInt32
  order : ByteOrder
  words : List String
  input : String

namespace Report

/-- The report of an image assembled from `input`. -/
def ofImage (image : Image) (input : String) : Report where
  start := image.start
  finish := image.finish
  order := image.order
  words := image.words.map fun word => String.ofList (Text.hexWord word)
  input := input

/-- The items of a JSON list, one a line, indented below the list. -/
def jsonList (items : List String) : String :=
  match items with
  | [] => "[]"
  | _ => "[\n" ++ String.intercalate ",\n" (items.map ("    " ++ ·)) ++ "\n  ]"

/-- The members of a JSON object, one a line. -/
def jsonObject (members : List (String × String)) : String :=
  let lines := members.map fun (name, value) => "  " ++ Text.jsonString name ++ ": " ++ value
  "\x7b\n" ++ String.intercalate ",\n" lines ++ "\n\x7d"

/-- A report in JSON. -/
def json (report : Report) : String :=
  jsonObject
    [("start_pc", Nat.repr report.start.toNat),
      ("end_pc", Nat.repr report.finish.toNat),
      ("endianness", Text.jsonString report.order.name),
      ("words", jsonList (report.words.map Text.jsonString)),
      ("input", Text.jsonString report.input)]

end Report

/-- The bytes that an image assembled from `input` is written as. Reports are
written by `write`. -/
def renderWith {m : Type → Type} [Monad m] (write : Report → m String) (image : Image)
    (format : Format) (input : String) : m ByteArray :=
  match format with
  | .bin => return ⟨image.bytes.toArray⟩
  | .hex => return (String.ofList (image.hex ++ ['\n'])).toUTF8
  | .json => return ((← write (.ofImage image input)) ++ "\n").toUTF8
  | .listing => return (String.ofList image.listing).toUTF8

/-- The bytes that an image assembled from `input` is written as, with reports in
JSON. -/
def render (image : Image) (format : Format) (input : String) : ByteArray :=
  Id.run (renderWith (fun report => pure report.json) image format input)

end Mips32
