/-
# Numerals

Reading unsigned and signed numerals of a given radix within bounds, and writing
hexadecimal numerals. Reading goes from left to right and the first character
that is no digit, or the first digit that takes the value out of bounds, decides
which fault is reported. Underscores are no digits here; formats that allow them
remove them first.
-/

namespace Mips32.Text

/-- Why a numeral cannot be read. -/
inductive NumeralFault
  | empty
  | invalidDigit
  | tooLarge
  | tooSmall
  deriving DecidableEq

/-- The wording of a fault. -/
def NumeralFault.message : NumeralFault → String
  | .empty => "cannot parse integer from empty string"
  | .invalidDigit => "invalid digit found in string"
  | .tooLarge => "number too large to fit in target type"
  | .tooSmall => "number too small to fit in target type"

/-- The value of an ASCII digit or letter, letters of either case counting from
ten. -/
def digitValue (c : Char) : Option Nat :=
  if '0' ≤ c ∧ c ≤ '9' then some (c.toNat - '0'.toNat)
  else if 'a' ≤ c ∧ c ≤ 'z' then some (c.toNat - 'a'.toNat + 10)
  else if 'A' ≤ c ∧ c ≤ 'Z' then some (c.toNat - 'A'.toNat + 10)
  else none

/-- The value of a digit in the given radix. -/
def digitIn (radix : Nat) (c : Char) : Option Nat :=
  (digitValue c).filter (· < radix)

/-- Appends the digits of a text to a value already read, staying at or below
`greatest`; a value above it is the fault `beyond`. -/
def readDigits (radix greatest : Nat) (beyond : NumeralFault) :
    Nat → List Char → Except NumeralFault Nat
  | value, [] => .ok value
  | value, c :: rest =>
    match digitIn radix c with
    | none => .error .invalidDigit
    | some digit =>
      let next := value * radix + digit
      if next ≤ greatest then readDigits radix greatest beyond next rest
      else .error beyond

/-- Reads an unsigned numeral: one optional `+`, then at least one digit. -/
def readNat (radix greatest : Nat) : List Char → Except NumeralFault Nat
  | [] => .error .empty
  | ['+'] => .error .invalidDigit
  | '+' :: digits => readDigits radix greatest .tooLarge 0 digits
  | digits => readDigits radix greatest .tooLarge 0 digits

/-- Reads a signed numeral of 64 bits: one optional sign, then at least one
digit. -/
def readInt64 (radix : Nat) : List Char → Except NumeralFault Int
  | [] => .error .empty
  | ['+'] | ['-'] => .error .invalidDigit
  | '-' :: digits => do
    let magnitude ← readDigits radix 0x8000000000000000 .tooSmall 0 digits
    return -magnitude
  | '+' :: digits => do
    let magnitude ← readDigits radix 0x7FFFFFFFFFFFFFFF .tooLarge 0 digits
    return magnitude
  | digits => do
    let magnitude ← readDigits radix 0x7FFFFFFFFFFFFFFF .tooLarge 0 digits
    return magnitude

/-- Splits off the mark `0x` or `0X` of a hexadecimal numeral. -/
def afterHexMark : List Char → Option (List Char)
  | '0' :: 'x' :: digits => some digits
  | '0' :: 'X' :: digits => some digits
  | _ => none

/-- A numeral without the underscores that group its digits. -/
def ungrouped (digits : List Char) : List Char :=
  digits.filter (· ≠ '_')

/-- The lowest `width` hexadecimal digits of a number, most significant first,
in lower case. -/
def hexDigits : Nat → Nat → List Char
  | 0, _ => []
  | width + 1, value => hexDigits width (value / 16) ++ [Nat.digitChar (value % 16)]

/-- Eight hexadecimal digits in upper case. -/
def hexWord (word : UInt32) : List Char :=
  (hexDigits 8 word.toNat).map Char.toUpper

/-- An address: `0x` and eight digits in lower case. -/
def hexAddress (address : UInt32) : List Char :=
  '0' :: 'x' :: hexDigits 8 address.toNat

/-- A value: `0x` and no more digits than needed. A negative value shows its
64-bit two's complement. -/
def hexValue (value : Int) : String :=
  "0x" ++ String.ofList (Nat.toDigits 16 (value % 0x10000000000000000).toNat)

end Mips32.Text
