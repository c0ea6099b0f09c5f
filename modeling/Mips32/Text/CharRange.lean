/-
# Ranges of characters

Character properties are given as increasing lists of code point ranges. All
tables are those of Unicode 17.
-/

namespace Mips32.Text

/-- The code points from `first` to `last`, both included. -/
structure CharRange where
  first : Nat
  last : Nat

/-- Whether a character lies in a range. -/
def CharRange.holds (range : CharRange) (c : Char) : Bool :=
  range.first ≤ c.toNat && c.toNat ≤ range.last

/-- Whether a character lies in one of several ranges. -/
def inRanges (ranges : List CharRange) (c : Char) : Bool :=
  ranges.any (·.holds c)

end Mips32.Text
