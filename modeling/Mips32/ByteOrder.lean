/-
# Byte order

Words are packed most significant byte first. The byte order of an image is
applied to each finished word, so that writing the result most significant byte
first yields that order.
-/

namespace Mips32

/-- The order of the bytes of a word in an image. -/
inductive ByteOrder
  | little
  | big
  deriving DecidableEq

/-- The bytes of a word, most significant first. -/
def wordBytes (word : UInt32) : List UInt8 :=
  [(word >>> 24).toUInt8, (word >>> 16).toUInt8, (word >>> 8).toUInt8, word.toUInt8]

/-- The word with given bytes, most significant first. -/
def wordOfBytes (first second third fourth : UInt8) : UInt32 :=
  first.toUInt32 <<< 24 ||| second.toUInt32 <<< 16 ||| third.toUInt32 <<< 8 |||
    fourth.toUInt32

/-- The word with its bytes in the opposite order. -/
def swapBytes (word : UInt32) : UInt32 :=
  wordOfBytes word.toUInt8 (word >>> 8).toUInt8 (word >>> 16).toUInt8
    (word >>> 24).toUInt8

namespace ByteOrder

/-- The name of a byte order in files and on the command line. -/
def name : ByteOrder → String
  | little => "little"
  | big => "big"

/-- The byte order with a given name. -/
def ofName? : String → Option ByteOrder
  | "little" => some little
  | "big" => some big
  | _ => none

/-- The word to write most significant byte first for a byte order. -/
def apply : ByteOrder → UInt32 → UInt32
  | little, word => swapBytes word
  | big, word => word

end ByteOrder

end Mips32
