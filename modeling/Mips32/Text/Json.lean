/-
# JSON text

A strict reader of JSON text and the writing of JSON strings. The reader keeps
what a configuration needs to see: the members of an object in order, repeated
names included, and of a number only whether it is written as a natural number.
A string with an unpaired surrogate escape is well formed JSON and stands for no
text.
-/
import Mips32.Text.Numeral

namespace Mips32.Text

/-- A JSON value. -/
inductive JsonValue
  | null
  | boolean (value : Bool)
  /-- A number, with its value if it is written as digits alone. -/
  | number (natural : Option Nat)
  /-- A string, with its text if it stands for one. -/
  | string (text : Option String)
  | array (items : List JsonValue)
  | object (members : List (Option String × JsonValue))

namespace JsonValue

/-- The blanks between JSON tokens. -/
def isGap (c : Char) : Bool :=
  c = ' ' || c = '\n' || c = '\t' || c = '\r'

/-- Skips blanks. -/
def skipGap (text : List Char) : List Char :=
  text.dropWhile isGap

/-- The character of a short escape. -/
def shortEscape? (c : Char) : Option Char :=
  match c with
  | '"' => some '"'
  | '\\' => some '\\'
  | '/' => some '/'
  | 'b' => some '\x08'
  | 'f' => some '\x0c'
  | 'n' => some '\n'
  | 'r' => some '\r'
  | 't' => some '\t'
  | _ => none

/-- The value of four hexadecimal digits. -/
def fourDigits? (a b c d : Char) : Option Nat := do
  let a ← digitIn 16 a
  let b ← digitIn 16 b
  let c ← digitIn 16 c
  let d ← digitIn 16 d
  return ((a * 16 + b) * 16 + c) * 16 + d

/-- Reads a string up to its closing quote, as code units: a character stands for
its code point, an escape for the unit it names. The units read so far come last
first. -/
def scanString (units : List Nat) : List Char → Option (List Nat × List Char)
  | [] => none
  | '"' :: rest => some (units.reverse, rest)
  | '\\' :: 'u' :: a :: b :: c :: d :: rest =>
    match fourDigits? a b c d with
    | none => none
    | some unit => scanString (unit :: units) rest
  | '\\' :: c :: rest =>
    match shortEscape? c with
    | none => none
    | some escaped => scanString (escaped.toNat :: units) rest
  | c :: rest =>
    if c.toNat < 0x20 then none else scanString (c.toNat :: units) rest

/-- The text of code units, in which surrogates stand in pairs. -/
def textOfUnits (units : List Nat) : Option (List Char) :=
  match units with
  | [] => some []
  | unit :: rest =>
    if 0xD800 ≤ unit ∧ unit < 0xDC00 then
      match rest with
      | low :: rest =>
        if 0xDC00 ≤ low ∧ low < 0xE000 then
          let code := 0x10000 + (unit - 0xD800) * 0x400 + (low - 0xDC00)
          (textOfUnits rest).map (Char.ofNat code :: ·)
        else none
      | [] => none
    else if 0xDC00 ≤ unit ∧ unit < 0xE000 then none
    else (textOfUnits rest).map (Char.ofNat unit :: ·)

/-- Reads a string after its opening quote. -/
def readString (text : List Char) : Option (Option String × List Char) := do
  let (units, rest) ← scanString [] text
  return ((textOfUnits units).map String.ofList, rest)

/-- Skips at least one digit. -/
def skipDigits (text : List Char) : Option (List Char) :=
  match text.takeWhile Char.isDigit with
  | [] => none
  | _ => some (text.dropWhile Char.isDigit)

/-- Skips a fraction, if there is one. -/
def skipFraction : List Char → Option (List Char)
  | '.' :: rest => skipDigits rest
  | text => some text

/-- Skips an exponent, if there is one. -/
def skipExponent : List Char → Option (List Char)
  | 'e' :: '+' :: rest | 'e' :: '-' :: rest | 'e' :: rest => skipDigits rest
  | 'E' :: '+' :: rest | 'E' :: '-' :: rest | 'E' :: rest => skipDigits rest
  | text => some text

/-- Reads a number. The whole part has no needless zero in front. -/
def readNumber (text : List Char) : Option (Option Nat × List Char) := do
  let (negative, body) :=
    match text with
    | '-' :: rest => (true, rest)
    | _ => (false, text)
  let digits := body.takeWhile Char.isDigit
  let afterDigits := body.dropWhile Char.isDigit
  if digits.isEmpty || (digits.head? = some '0' && digits.length > 1) then none
  else
    let rest ← skipExponent (← skipFraction afterDigits)
    let plain := !negative && rest.length = afterDigits.length
    let value := digits.foldl (fun value c => value * 10 + (c.toNat - '0'.toNat)) 0
    return (if plain then some value else none, rest)

/-- Reads a fixed word. -/
def readWord (word : List Char) (value : JsonValue) (text : List Char) :
    Option (JsonValue × List Char) :=
  if word.isPrefixOf text then some (value, text.drop word.length) else none

mutual

/-- Reads a value. The first argument bounds the number of steps. -/
def readValue : Nat → List Char → Option (JsonValue × List Char)
  | 0, _ => none
  | steps + 1, text =>
    match skipGap text with
    | '"' :: rest => (readString rest).map fun (content, rest) => (.string content, rest)
    | '[' :: rest =>
      match skipGap rest with
      | ']' :: rest => some (.array [], rest)
      | rest => readItems steps [] rest
    | '\x7b' :: rest =>
      match skipGap rest with
      | '\x7d' :: rest => some (.object [], rest)
      | rest => readMembers steps [] rest
    | 'n' :: rest => readWord ['u', 'l', 'l'] .null rest
    | 't' :: rest => readWord ['r', 'u', 'e'] (.boolean true) rest
    | 'f' :: rest => readWord ['a', 'l', 's', 'e'] (.boolean false) rest
    | text => (readNumber text).map fun (natural, rest) => (.number natural, rest)

/-- Reads the items of an array from one item on; the items before it come last
first. -/
def readItems : Nat → List JsonValue → List Char → Option (JsonValue × List Char)
  | 0, _, _ => none
  | steps + 1, items, text =>
    match readValue steps text with
    | none => none
    | some (item, rest) =>
      match skipGap rest with
      | ',' :: rest => readItems steps (item :: items) rest
      | ']' :: rest => some (.array (item :: items).reverse, rest)
      | _ => none

/-- Reads the members of an object from one member on; the members before it come
last first. -/
def readMembers : Nat → List (Option String × JsonValue) → List Char →
    Option (JsonValue × List Char)
  | 0, _, _ => none
  | steps + 1, members, text =>
    match skipGap text with
    | '"' :: rest =>
      match readString rest with
      | none => none
      | some (name, rest) =>
        match skipGap rest with
        | ':' :: rest =>
          match readValue steps rest with
          | none => none
          | some (value, rest) =>
            match skipGap rest with
            | ',' :: rest => readMembers steps ((name, value) :: members) rest
            | '\x7d' :: rest => some (.object ((name, value) :: members).reverse, rest)
            | _ => none
        | _ => none
    | _ => none

end

/-- Reads a text that holds one value and nothing else. Every second step takes a
character, which bounds the steps. -/
def read? (text : String) : Option JsonValue :=
  match readValue (2 * text.toList.length + 2) text.toList with
  | some (value, rest) => if (skipGap rest).isEmpty then some value else none
  | none => none

end JsonValue

/-- A character as it stands in a JSON string. -/
def jsonChar (c : Char) : List Char :=
  if c = '"' then ['\\', '"']
  else if c = '\\' then ['\\', '\\']
  else if c.toNat = 0x08 then ['\\', 'b']
  else if c.toNat = 0x0C then ['\\', 'f']
  else if c = '\n' then ['\\', 'n']
  else if c = '\r' then ['\\', 'r']
  else if c = '\t' then ['\\', 't']
  else if c.toNat < 0x20 then ['\\', 'u'] ++ hexDigits 4 c.toNat
  else [c]

/-- A text as a JSON string. -/
def jsonString (text : String) : String :=
  String.ofList ('"' :: text.toList.flatMap jsonChar ++ ['"'])

end Mips32.Text
