/-
# Fields of an instruction word

Each field has a capacity, the number of values its bits can take, and a range of
values it accepts. The code of a trap accepts fewer values than its bits can
take.
-/

namespace Mips32

/-- A bit field of an instruction word, as range errors name it. -/
inductive Field
  | opcode
  | rs
  | rt
  | rd
  | shift
  | funct
  | fmt
  | ft
  | fs
  | fd
  | code
  | immediate
  | branchOffset
  | jumpIndex
  deriving DecidableEq

namespace Field

/-- The name of a field in messages. -/
def name : Field → String
  | opcode => "opcode"
  | rs => "rs"
  | rt => "rt"
  | rd => "rd"
  | shift => "shift"
  | funct => "funct"
  | fmt => "fmt"
  | ft => "ft"
  | fs => "fs"
  | fd => "fd"
  | code => "code"
  | immediate => "immediate"
  | branchOffset => "branch offset"
  | jumpIndex => "jump index"

/-- The number of values the bits of a field can take: fields of a word are 5, 6,
16, 20 or 26 bits wide. -/
def capacity : Field → Nat
  | opcode | funct => 0x40
  | rs | rt | rd | shift | fmt | ft | fs | fd => 0x20
  | code => 0x100000
  | immediate | branchOffset => 0x10000
  | jumpIndex => 0x4000000

/-- The greatest value a field accepts. -/
def greatest : Field → Nat
  | opcode | funct => 0x3F
  | rs | rt | rd | shift | fmt | ft | fs | fd => 0x1F
  | code | immediate | branchOffset => 0xFFFF
  | jumpIndex => 0x3FFFFFF

/-- The least value a field accepts. An immediate may be written as a signed or
as an unsigned number; every other field is unsigned. -/
def least : Field → Int
  | immediate => -0x8000
  | _ => 0

/-- The values a field accepts. -/
def Accepts (field : Field) (value : Int) : Prop :=
  field.least ≤ value ∧ value ≤ field.greatest

instance (field : Field) (value : Int) : Decidable (field.Accepts value) :=
  inferInstanceAs (Decidable (_ ∧ _))

end Field

end Mips32
