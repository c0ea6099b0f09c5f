/-
# Configuration files

A configuration is a JSON object with the optional members `start_pc` and
`endianness`, or an array with their values in that order. Other members are
ignored. A byte order is given by its name, or by an object whose one member has
that name and the value null.
-/
import Mips32.Session
import Mips32.Text.Json

namespace Mips32

/-- Why a configuration file is refused. -/
inductive ConfigFault
  | malformed
  | notSettings
  | repeated (member : String)
  | badStart
  | badOrder
  deriving DecidableEq

/-- The wording of a fault. -/
def ConfigFault.message : ConfigFault → String
  | malformed => "the text is not well formed JSON"
  | notSettings => "expected an object or an array of settings"
  | repeated member => "duplicate field `" ++ member ++ "`"
  | badStart => "expected an unsigned number of 32 bits for `start_pc`"
  | badOrder => "expected `little` or `big` for `endianness`"

namespace ConfigFile

open Text (JsonValue)

/-- Reads a start address. -/
def readStart : JsonValue → Except ConfigFault UInt32
  | .number (some value) =>
    if value ≤ 0xFFFFFFFF then .ok (UInt32.ofNat value) else .error .badStart
  | _ => .error .badStart

/-- Reads a byte order. -/
def readOrder (value : JsonValue) : Except ConfigFault ByteOrder :=
  let order :=
    match value with
    | .string name => name.bind ByteOrder.ofName?
    | .object [(name, .null)] => name.bind ByteOrder.ofName?
    | _ => none
  match order with
  | some order => .ok order
  | none => .error .badOrder

/-- Reads the members of an object after those already read. -/
def readMembers : Option UInt32 → Option ByteOrder → List (Option String × JsonValue) →
    Except ConfigFault Config
  | start, order, [] => .ok ⟨start.getD 0, order.getD .little⟩
  | start, order, (name, value) :: rest =>
    match name with
    | none => .error .malformed
    | some "start_pc" =>
      if start.isSome then .error (.repeated "start_pc")
      else do readMembers (some (← readStart value)) order rest
    | some "endianness" =>
      if order.isSome then .error (.repeated "endianness")
      else do readMembers start (some (← readOrder value)) rest
    | some _ => readMembers start order rest

/-- Reads a configuration. -/
def read (text : String) : Except ConfigFault Config :=
  match JsonValue.read? text with
  | none => .error .malformed
  | some (.object members) => readMembers none none members
  | some (.array []) => .ok ⟨0, .little⟩
  | some (.array [start]) => return ⟨← readStart start, .little⟩
  | some (.array [start, order]) => return ⟨← readStart start, ← readOrder order⟩
  | some _ => .error .notSettings

end ConfigFile

end Mips32
