/-
# Images

The result of an assembly: consecutive words from a start address, already in the
byte order of the image.
-/
import Mips32.ByteOrder
import Mips32.Text.Numeral

namespace Mips32

/-- A finished program. -/
structure Image where
  start : UInt32
  order : ByteOrder
  words : List UInt32
  deriving DecidableEq

namespace Image

/-- The address after the last word, around the end of the address space. -/
def finish (image : Image) : UInt32 :=
  image.start + 4 * UInt32.ofNat image.words.length

/-- Four bytes for each word. -/
def bytes (image : Image) : List UInt8 :=
  image.words.flatMap wordBytes

/-- Eight digits for each word. -/
def hex (image : Image) : List Char :=
  image.words.flatMap Text.hexWord

/-- A line of the listing. -/
def listingLine (address word : UInt32) : List Char :=
  Text.hexAddress address ++ [':', ' '] ++ Text.hexWord word ++ ['\n']

/-- The lines of words from an address on, which goes up by four bytes a line. -/
def listingFrom (address : UInt32) : List UInt32 → List Char
  | [] => []
  | word :: rest => listingLine address word ++ listingFrom (address + 4) rest

/-- One line for each word, with its address. -/
def listing (image : Image) : List Char :=
  listingFrom image.start image.words

end Image

end Mips32
