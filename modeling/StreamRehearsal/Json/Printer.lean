import StreamRehearsal.Document.Basic
import StreamRehearsal.Text.Decimal

/-! # Writing JSON

A document is written as JSON in two layouts: on one line without blanks, or with every item and
field on a line of its own.

* `Json.compact d` and `Json.pretty d` are the texts of a document.
* In text, the quotation mark, the backslash and the control characters are escaped; five of the
  latter have escapes of one letter. -/

namespace StreamRehearsal.Json

/-- A number of two hexadecimal digits. -/
def hexByte (n : Nat) : List Char := [Nat.digitChar (n / 16), Nat.digitChar (n % 16)]

/-- A character as it stands in text. -/
def escape (c : Char) : List Char :=
  if c = '"' then ['\\', '"']
  else if c = '\\' then ['\\', '\\']
  else if c = '\x08' then ['\\', 'b']
  else if c = '\x0c' then ['\\', 'f']
  else if c = '\n' then ['\\', 'n']
  else if c = '\r' then ['\\', 'r']
  else if c = '\t' then ['\\', 't']
  else if c.toNat < 0x20 then ['\\', 'u', '0', '0'] ++ hexByte c.toNat
  else [c]

/-- Text between quotation marks. -/
def quote (s : String) : List Char := ['"'] ++ s.toList.flatMap escape ++ ['"']

/-- A number as it is written. -/
def numberChars : Number → List Char
  | .natural n => Decimal.digits n
  | .other negative mantissa exponent =>
    (if negative then ['-'] else []) ++ Decimal.digits mantissa ++ ['e'] ++
      (if exponent < 0 then ['-'] else []) ++ Decimal.digits exponent.natAbs

/-- How the parts of a list or table are set apart. -/
structure Layout where
  /-- What stands before each part, at this depth. -/
  before : Nat → List Char
  /-- What stands before the closing bracket, at this depth. -/
  closing : Nat → List Char
  /-- What stands between a key and its value. -/
  colon : List Char

/-- Everything on one line. -/
def Layout.compact : Layout := ⟨fun _ => [], fun _ => [], [':']⟩

/-- A new line, with two blanks for each level of depth. -/
def newLine (depth : Nat) : List Char := '\n' :: List.replicate (2 * depth) ' '

/-- Every part on a line of its own. -/
def Layout.pretty : Layout := ⟨newLine, newLine, [':', ' ']⟩

mutual

/-- A document at a depth, in a layout. -/
def chars (layout : Layout) (depth : Nat) : Document → List Char
  | .null => ['n', 'u', 'l', 'l']
  | .boolean true => ['t', 'r', 'u', 'e']
  | .boolean false => ['f', 'a', 'l', 's', 'e']
  | .number n => numberChars n
  | .text s => quote s
  | .list [] => ['[', ']']
  | .list (d :: rest) =>
    ['['] ++ layout.before (depth + 1) ++ chars layout (depth + 1) d ++
      itemChars layout (depth + 1) rest ++ layout.closing depth ++ [']']
  | .table [] => ['{', '}']
  | .table ((key, d) :: rest) =>
    ['{'] ++ layout.before (depth + 1) ++ quote key ++ layout.colon ++
      chars layout (depth + 1) d ++ fieldChars layout (depth + 1) rest ++
      layout.closing depth ++ ['}']
  | .unusable => ['"', '\\', 'u', 'd', '8', '0', '0', '"']

/-- The items of a list after the first. -/
def itemChars (layout : Layout) (depth : Nat) : List Document → List Char
  | [] => []
  | d :: rest =>
    [','] ++ layout.before depth ++ chars layout depth d ++ itemChars layout depth rest

/-- The fields of a table after the first. -/
def fieldChars (layout : Layout) (depth : Nat) : List (String × Document) → List Char
  | [] => []
  | (key, d) :: rest =>
    [','] ++ layout.before depth ++ quote key ++ layout.colon ++ chars layout depth d ++
      fieldChars layout depth rest

end

/-- A document on one line. -/
def compact (d : Document) : String := String.ofList (chars .compact 0 d)

/-- A document with every part on a line of its own. -/
def pretty (d : Document) : String := String.ofList (chars .pretty 0 d)

end StreamRehearsal.Json
