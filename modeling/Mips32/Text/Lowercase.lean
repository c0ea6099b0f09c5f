/-
# Lower case text

The full lower case mapping of Unicode without language tailoring. Two letters
are not mapped one to one: the dotted capital I becomes an i with a combining
dot, and a capital sigma at the end of a word becomes a final sigma.
-/
import Mips32.Text.CaseRuns
import Mips32.Text.Casing

namespace Mips32.Text

/-- Whether the first character of a text that is not ignored for casing is a
cased letter. -/
def startsCased (text : List Char) : Bool :=
  match text.dropWhile isCaseIgnorable with
  | [] => false
  | c :: _ => isCased c

/-- The lower case form of a character between the text before it, nearest
character first, and the text after it. -/
def lowerBetween (before : List Char) (c : Char) (after : List Char) : List Char :=
  if c = 'Σ' then
    if startsCased before && !startsCased after then ['ς'] else ['σ']
  else if c = 'İ' then ['i', '\u0307']
  else [lowerChar c]

/-- The lower case form of a text that follows the characters `before`, nearest
character first. -/
def lowerAfter (before : List Char) : List Char → List Char
  | [] => []
  | c :: rest => lowerBetween before c rest ++ lowerAfter (c :: before) rest

/-- The lower case form of a text. -/
def lowercase (text : List Char) : List Char :=
  lowerAfter [] text

end Mips32.Text
