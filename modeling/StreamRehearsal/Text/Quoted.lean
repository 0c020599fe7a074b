import StreamRehearsal.Text.Property

/-! # Quoted text

Messages quote the names they are about, so that every character of a name can be seen.

* The quotation mark in use and the backslash get a backslash before them; the null character,
  tab, carriage return and line feed have escapes of one letter; any other character without a
  shape of its own is written as its code point in hexadecimal.
* `text s` quotes a string with double quotes, `character c` a character with single ones. -/

namespace StreamRehearsal.Quoted

/-- The code point of a character, written as an escape. -/
def codePoint (c : Char) : List Char :=
  ['\\', 'u', '{'] ++ Nat.toDigits 16 c.toNat ++ ['}']

/-- A character as it stands between two of these quotation marks. -/
def escape (mark c : Char) : List Char :=
  if c = '\x00' then ['\\', '0']
  else if c = '\t' then ['\\', 't']
  else if c = '\r' then ['\\', 'r']
  else if c = '\n' then ['\\', 'n']
  else if c = mark ∨ c = '\\' then ['\\', c]
  else if Property.isShapeless c then codePoint c
  else [c]

/-- Characters between two of these quotation marks. -/
def between (mark : Char) (cs : List Char) : List Char :=
  [mark] ++ cs.flatMap (escape mark) ++ [mark]

/-- A string in double quotes. -/
def text (s : String) : String := String.ofList (between '"' s.toList)

/-- A character in single quotes. -/
def character (c : Char) : String := String.ofList (between '\'' [c])

end StreamRehearsal.Quoted
