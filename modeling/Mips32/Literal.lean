/-
# Number literals

Two readers of numbers. Assembly text allows a minus sign in front and gives a
signed number of 64 bits; a start address is an unsigned number of 32 bits. Both
allow blanks around the number, the marks `0x` and `0X`, and underscores among
hexadecimal digits. Underscores are removed before the digits are read and after
the sign is looked for, so a sign that follows an underscore is read as the sign
of the digits.

That is how a text can name the least number of 64 bits, and a second minus sign in
front, as in `-0x_-8000000000000000`, then negates it. No number of 64 bits is the
result, and what becomes of such a text is not described here. Every other number that
is read has 64 bits.
-/
import Mips32.Text.Blank
import Mips32.Text.Numeral

namespace Mips32.Literal

/-- Whether a text starts with a sign. -/
def startsWithSign : List Char → Bool
  | '-' :: _ | '+' :: _ => true
  | _ => false

/-- Splits a minus sign off a text. -/
def splitMinus : List Char → Bool × List Char
  | '-' :: rest => (true, rest)
  | text => (false, text)

/-- Reads the part of a literal after its minus sign. -/
def readUnsigned (text : List Char) : Option Int :=
  if startsWithSign text then none
  else
    match Text.afterHexMark text with
    | some digits =>
      if startsWithSign digits then none
      else (Text.readInt64 16 (Text.ungrouped digits)).toOption
    | none => (Text.readInt64 10 text).toOption

/-- Reads a number of assembly text. The result is one of 64 bits unless the text
negates the least of them. -/
def read? (text : List Char) : Option Int :=
  let (negative, body) := splitMinus (Text.trim text)
  (readUnsigned body).map fun value => if negative then -value else value

/-- Reads a start address. -/
def readAddress (text : List Char) : Except Text.NumeralFault UInt32 :=
  let body := Text.trim text
  match Text.afterHexMark body with
  | some digits => (Text.readNat 16 0xFFFFFFFF (Text.ungrouped digits)).map UInt32.ofNat
  | none => (Text.readNat 10 0xFFFFFFFF body).map UInt32.ofNat

end Mips32.Literal
