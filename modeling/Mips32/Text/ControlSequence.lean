/-
# Text without terminal control

What remains of a text when it is written to something that is no terminal:
control characters and control sequences are left out, and blanks are kept. A
sequence starts with an escape character. The cancel and substitute characters
end any sequence, and another escape character starts a new one.
-/

namespace Mips32.Text

/-- Where a text stands within a control sequence. -/
inductive ControlSequence
  /-- In no sequence. -/
  | outside
  /-- After the escape character. -/
  | escape
  /-- In a sequence of two or more characters that has no parameters. -/
  | intermediate
  /-- In a sequence with parameters. -/
  | parameters
  /-- At the head of a control string. -/
  | stringHead
  /-- In the parameters of a control string. -/
  | stringParameters
  /-- After the parameters of a control string, before its name. -/
  | stringIntermediate
  /-- In a control string. -/
  | controlString
  /-- In a system command, which a bell may end. -/
  | systemCommand
  deriving DecidableEq

/-- The blanks that are kept although they are control characters. -/
def isControlBlank (c : Char) : Bool :=
  c = '\t' || c = '\n' || c = '\r' || c.toNat = 0x0C

/-- Whether a character is written outside of sequences. -/
def isWritable (c : Char) : Bool :=
  isControlBlank c || (0x20 ≤ c.toNat && c.toNat ≠ 0x7F)

/-- Whether the byte that ends a control string is among those of a character. -/
def hasStringTerminator (c : Char) : Bool :=
  0x80 ≤ c.toNat && c.toString.toUTF8.data.contains 0x9C

namespace ControlSequence

/-- The sequence that a character after the escape character leads to. -/
def afterEscape (code : Nat) : ControlSequence :=
  if 0x20 ≤ code ∧ code ≤ 0x2F then intermediate
  else if code = 0x50 then stringHead
  else if code = 0x58 ∨ code = 0x5E ∨ code = 0x5F then controlString
  else if code = 0x5B then parameters
  else if code = 0x5D then systemCommand
  else if 0x30 ≤ code ∧ code ≤ 0x7E then outside
  else escape

/-- Where a text stands after a character at the head of a control string. A
private mark is taken here and nowhere later. -/
def afterStringHead (code : Nat) : ControlSequence :=
  if 0x20 ≤ code ∧ code ≤ 0x2F then stringIntermediate
  else if 0x30 ≤ code ∧ code ≤ 0x3F then stringParameters
  else if 0x40 ≤ code ∧ code ≤ 0x7E then controlString
  else stringHead

/-- Where a text stands after a character in the parameters of a control string.
A private mark is out of place, and the string is then skipped to its end like
any other. -/
def afterStringParameters (code : Nat) : ControlSequence :=
  if 0x20 ≤ code ∧ code ≤ 0x2F then stringIntermediate
  else if 0x3C ≤ code ∧ code ≤ 0x7E then controlString
  else stringParameters

/-- Where a text stands after a character that follows the parameters of a
control string. Further parameters are out of place, and the string is then
skipped to its end like any other. -/
def afterStringIntermediate (code : Nat) : ControlSequence :=
  if 0x30 ≤ code ∧ code ≤ 0x7E then controlString else stringIntermediate

/-- Where a text stands after a character that is left out. -/
def next (sequence : ControlSequence) (c : Char) : ControlSequence :=
  let code := c.toNat
  if code = 0x18 ∨ code = 0x1A then outside
  else if code = 0x1B then escape
  else
    match sequence with
    | outside => outside
    | escape => afterEscape code
    | intermediate => if 0x30 ≤ code ∧ code ≤ 0x7E then outside else intermediate
    | parameters => if 0x40 ≤ code ∧ code ≤ 0x7E then outside else parameters
    | stringHead => afterStringHead code
    | stringParameters => afterStringParameters code
    | stringIntermediate => afterStringIntermediate code
    | controlString => if hasStringTerminator c then outside else controlString
    | systemCommand => if code = 0x07 then outside else systemCommand

/-- Whether a character is written although a sequence is not finished. Blanks
are, except within strings. -/
def writes (sequence : ControlSequence) (c : Char) : Bool :=
  match sequence with
  | outside => isWritable c
  | escape | intermediate | parameters => isControlBlank c
  | stringHead | stringParameters | stringIntermediate => false
  | controlString | systemCommand => false

end ControlSequence

/-- What is left of a text that stands within a sequence. A blank that is written
interrupts the sequence: what follows is written until the next control
character, which takes the sequence up again. A character outside of ASCII that
is written ends it. -/
def withoutControlFrom (sequence : ControlSequence) (interrupted : Bool) :
    List Char → List Char
  | [] => []
  | c :: rest =>
    if interrupted && isWritable c then
      c :: withoutControlFrom (if c.toNat < 0x80 then sequence else .outside) true rest
    else if sequence.writes c then c :: withoutControlFrom sequence true rest
    else withoutControlFrom (sequence.next c) false rest

/-- What is left of a text without its control sequences and characters. -/
def withoutControl (text : String) : String :=
  String.ofList (withoutControlFrom .outside false text.toList)

end Mips32.Text
