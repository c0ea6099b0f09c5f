/-
# Statements

A line of assembly text holds any number of label definitions and then at most
one statement. A number sign or a semicolon starts a comment.
-/
import Mips32.Source.Diagnostic
import Mips32.Text.Lowercase
import Mips32.Text.Split

namespace Mips32

/-- A statement whose operands are not read yet. -/
inductive Statement
  /-- The definition of a label. -/
  | label (name : String)
  /-- Words of data. -/
  | word (values : List String)
  /-- A mnemonic with its operands. -/
  | instr (mnemonic : String) (operands : List String)
  deriving DecidableEq

/-- The characters an identifier starts with. -/
def startsIdentifier (c : Char) : Bool :=
  c.isAlpha || c = '_' || c = '.'

/-- The characters an identifier goes on with. -/
def continuesIdentifier (c : Char) : Bool :=
  c.isAlphanum || c = '_' || c = '.'

/-- Identifiers: ASCII letters, digits, underscores and points, with no digit in
front. -/
def isIdentifier : List Char → Bool
  | [] => false
  | c :: rest => startsIdentifier c && rest.all continuesIdentifier

namespace Statement

/-- Whether a character starts a comment. -/
def startsComment (c : Char) : Bool :=
  c = '#' || c = ';'

/-- The definition of a label with a given name. -/
def definition (name : List Char) : Except Cause Statement :=
  if isIdentifier name then .ok (.label (String.ofList name))
  else .error (.badLabelName (String.ofList name))

/-- The operands of a statement, from the text after its mnemonic. -/
def splitOperands (text : List Char) : List (List Char) :=
  if text.isEmpty then [] else (Text.cut ',' text).map Text.trim

/-- The statement after the label definitions of a line, if there is one. The
text has no blanks at its ends. -/
def parseBody (text : List Char) : Except Cause (List Statement) :=
  if text.isEmpty then .ok []
  else
    let mnemonic := Text.lowercase (text.takeWhile fun c => !Text.isBlank c)
    let operands := splitOperands (Text.trim (text.dropWhile fun c => !Text.isBlank c))
    if operands.any List.isEmpty then .error (.emptyOperand (String.ofList text))
    else if mnemonic = ".word".toList then
      if operands.isEmpty then .error .wordWithoutValues
      else .ok [.word (operands.map String.ofList)]
    else .ok [.instr (String.ofList mnemonic) (operands.map String.ofList)]

/-- The statements of a line. -/
def parseLine (line : String) : Except Cause (List Statement) := do
  let body := line.toList.takeWhile fun c => !startsComment c
  let pieces := (Text.cut ':' body).map Text.trim
  let definitions ← pieces.dropLast.mapM definition
  let rest ← parseBody (pieces.getLast?.getD [])
  return definitions ++ rest

end Statement

end Mips32
