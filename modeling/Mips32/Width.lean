/-
# Numbers of 32 bits

The ranges that decide whether a number of assembly text fits a word.
-/

namespace Mips32

/-- The numbers of 32 bits without a sign. -/
def IsUnsigned32 (value : Int) : Prop :=
  0 ≤ value ∧ value ≤ 0xFFFFFFFF

/-- The numbers of 32 bits with a sign. -/
def IsSigned32 (value : Int) : Prop :=
  -0x80000000 ≤ value ∧ value ≤ 0x7FFFFFFF

instance (value : Int) : Decidable (IsUnsigned32 value) :=
  inferInstanceAs (Decidable (_ ∧ _))

instance (value : Int) : Decidable (IsSigned32 value) :=
  inferInstanceAs (Decidable (_ ∧ _))

end Mips32
