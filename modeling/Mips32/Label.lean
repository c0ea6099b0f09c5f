/-
# Labels

A label is a handle to an address that may be fixed later. Handles are numbered
in the order of creation.
-/

namespace Mips32

/-- A handle to a slot of a label table. -/
structure Label where
  index : Nat
  deriving DecidableEq

/-- A label as messages show it. -/
def Label.written (label : Label) : String :=
  "L" ++ Nat.repr label.index

end Mips32
