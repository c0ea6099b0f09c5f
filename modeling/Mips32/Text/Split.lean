/-
# Cutting text at separators

`cut` divides a text at every occurrence of a separator and keeps empty pieces,
so joining the pieces with the separator gives the text back. `lines` is the
division of a file into lines.
-/

namespace Mips32.Text

/-- Puts a character in front of a divided text. -/
def cutStep (separator c : Char) (pieces : List (List Char)) : List (List Char) :=
  if c = separator then [] :: pieces
  else
    match pieces with
    | [] => [[c]]
    | piece :: rest => (c :: piece) :: rest

/-- The pieces of a text between the separators; there is always at least one. -/
def cut (separator : Char) (text : List Char) : List (List Char) :=
  text.foldr (cutStep separator) [[]]

/-- Removes one carriage return from the end of a line. -/
def dropCarriageReturn (line : List Char) : List Char :=
  if line.getLast? = some '\r' then line.dropLast else line

/-- The lines of a text. A line ends at a line feed, and a carriage return right
before the line feed belongs to the ending. What follows the last line feed is a
line too unless it is empty, and keeps its carriage return. -/
def lines (text : List Char) : List (List Char) :=
  let pieces := cut '\n' text
  let closed := pieces.dropLast.map dropCarriageReturn
  match pieces.getLast? with
  | none | some [] => closed
  | some last => closed ++ [last]

end Mips32.Text
