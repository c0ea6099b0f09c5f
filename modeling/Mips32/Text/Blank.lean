/-
# Blank characters

The characters that count as spacing in assembly text, and the removal of
spacing from the two ends of a text. The class is the Unicode property
White_Space; format characters such as the zero width space and the byte order
mark are not in it, nor are the information separators U+001C to U+001F.
-/

namespace Mips32.Text

/-- The Unicode property White_Space. -/
def isBlank (c : Char) : Bool :=
  let code := c.toNat
  (0x09 ≤ code && code ≤ 0x0D) || code == 0x20 || code == 0x85 || code == 0xA0 ||
    code == 0x1680 || (0x2000 ≤ code && code ≤ 0x200A) || code == 0x2028 ||
    code == 0x2029 || code == 0x202F || code == 0x205F || code == 0x3000

/-- Removes the blanks at the end of a text. -/
def trimRight (text : List Char) : List Char :=
  (text.reverse.dropWhile isBlank).reverse

/-- Removes the blanks at both ends of a text. -/
def trim (text : List Char) : List Char :=
  trimRight (text.dropWhile isBlank)

/-- `trim` on strings. -/
def trimmed (text : String) : String :=
  String.ofList (trim text.toList)

end Mips32.Text
