import StreamRehearsal.Document.Basic
import StreamRehearsal.Text.Decimal

/-! # Lexemes of JSON

The first stage of reading JSON text: characters become lexemes, and blanks between them are
forgotten.

* `Lexeme.scan cs` takes one lexeme from the front of `cs`, and `Lexeme.all cs` takes all.
* Text may escape any UTF-16 unit by its number.  A pair of surrogates stands for one character;
  text with a surrogate that has no partner is `Lexeme.brokenText`, which names no string. -/

namespace StreamRehearsal.Json

/-- A word of JSON text. -/
inductive Lexeme where
  | leftBrace
  | rightBrace
  | leftBracket
  | rightBracket
  | colon
  | comma
  | null
  | boolean (b : Bool)
  | number (n : Number)
  | text (s : String)
  | brokenText
  deriving DecidableEq, Repr

/-- A part of text: a character that stands for itself, or a UTF-16 unit by its number. -/
inductive TextUnit where
  | plain (c : Char)
  | unit (n : Nat)
  deriving DecidableEq, Repr

/-! ### Text -/

/-- The value of a hexadecimal digit. -/
def hexDigit? (c : Char) : Option Nat :=
  if c.isDigit then some (c.toNat - '0'.toNat)
  else if 'a' ≤ c ∧ c ≤ 'f' then some (c.toNat - 'a'.toNat + 10)
  else if 'A' ≤ c ∧ c ≤ 'F' then some (c.toNat - 'A'.toNat + 10)
  else none

/-- The value of hexadecimal digits. -/
def hexValue? (cs : List Char) : Option Nat :=
  (cs.mapM hexDigit?).map fun ds => ds.foldl (fun v d => 16 * v + d) 0

/-- The character that a backslash and this letter stand for. -/
def escaped? (c : Char) : Option Char :=
  if c = '"' ∨ c = '\\' ∨ c = '/' then some c
  else if c = 'b' then some '\x08'
  else if c = 'f' then some '\x0c'
  else if c = 'n' then some '\n'
  else if c = 'r' then some '\r'
  else if c = 't' then some '\t'
  else none

/-- Takes the parts of text up to its closing quotation mark.  Control characters must be
escaped. -/
def scanUnits : List Char → Option (List TextUnit × List Char)
  | [] => none
  | c :: rest =>
    if c = '"' then some ([], rest)
    else if c = '\\' then
      match rest with
      | [] => none
      | e :: rest =>
        if e = 'u' then
          match rest with
          | h₁ :: h₂ :: h₃ :: h₄ :: rest =>
            match hexValue? [h₁, h₂, h₃, h₄], scanUnits rest with
            | some n, some (units, rest) => some (.unit n :: units, rest)
            | _, _ => none
          | _ => none
        else
          match escaped? e, scanUnits rest with
          | some c, some (units, rest) => some (.plain c :: units, rest)
          | _, _ => none
    else if c.toNat < 0x20 then none
    else
      match scanUnits rest with
      | some (units, rest) => some (.plain c :: units, rest)
      | none => none

/-- Whether a UTF-16 unit is the first half of a pair. -/
def isHighSurrogate (n : Nat) : Bool := 0xd800 ≤ n && n ≤ 0xdbff

/-- Whether a UTF-16 unit is the second half of a pair. -/
def isLowSurrogate (n : Nat) : Bool := 0xdc00 ≤ n && n ≤ 0xdfff

/-- The code point of a pair of surrogates. -/
def pairValue (high low : Nat) : Nat := 0x10000 + (high - 0xd800) * 0x400 + (low - 0xdc00)

/-- The characters of text, unless a surrogate has no partner. -/
def characters? : List TextUnit → Option (List Char)
  | [] => some []
  | .plain c :: rest => (characters? rest).map (c :: ·)
  | .unit n :: rest =>
    if isHighSurrogate n then
      match rest with
      | .unit m :: rest =>
        if isLowSurrogate m then (characters? rest).map (Char.ofNat (pairValue n m) :: ·) else none
      | _ => none
    else if isLowSurrogate n then none
    else (characters? rest).map (Char.ofNat n :: ·)

/-- Takes text up to its closing quotation mark. -/
def scanText (cs : List Char) : Option (Lexeme × List Char) :=
  match scanUnits cs with
  | some (units, rest) =>
    match characters? units with
    | some s => some (.text (String.ofList s), rest)
    | none => some (.brokenText, rest)
  | none => none

/-! ### Numbers -/

/-- Takes the digits at the front. -/
def scanDigits (cs : List Char) : List Char × List Char :=
  (cs.takeWhile Char.isDigit, cs.dropWhile Char.isDigit)

/-- Takes the digits after the point, if there is a point. -/
def scanFraction? : List Char → Option (List Char × List Char)
  | '.' :: rest =>
    match scanDigits rest with
    | ([], _) => none
    | taken => some taken
  | cs => some ([], cs)

/-- Takes an exponent and its sign, if there is one. -/
def scanExponent? : List Char → Option (Option Int × List Char)
  | [] => some (none, [])
  | e :: rest =>
    if e = 'e' ∨ e = 'E' then
      let (negative, rest) := match rest with
        | '-' :: rest => (true, rest)
        | '+' :: rest => (false, rest)
        | rest => (false, rest)
      match scanDigits rest with
      | ([], _) => none
      | (digits, rest) =>
        let n : Int := Decimal.value digits
        some (some (if negative then -n else n), rest)
    else some (none, e :: rest)

/-- Takes a number without its sign.  The digits before the point do not start with a needless
zero. -/
def scanMagnitude (negative : Bool) (cs : List Char) : Option (Number × List Char) :=
  match scanDigits cs with
  | ([], _) => none
  | (whole, rest) =>
    if whole.head? = some '0' ∧ whole ≠ ['0'] then none
    else
      match scanFraction? rest with
      | none => none
      | some (fraction, rest) =>
        match scanExponent? rest with
        | none => none
        | some (exponent, rest) =>
          if negative = false ∧ fraction = [] ∧ exponent = none then
            some (.natural (Decimal.value whole), rest)
          else
            some (.other negative (Decimal.value (whole ++ fraction))
              (exponent.getD 0 - fraction.length), rest)

/-- Takes a number. -/
def scanNumber : List Char → Option (Number × List Char)
  | '-' :: rest => scanMagnitude true rest
  | cs => scanMagnitude false cs

/-! ### Lexemes -/

/-- Whether a character separates lexemes and says nothing. -/
def isBlank (c : Char) : Bool := c == ' ' || c == '\t' || c == '\n' || c == '\r'

/-- Takes a word from the front. -/
def scanWord (word : List Char) (lexeme : Lexeme) (cs : List Char) :
    Option (Lexeme × List Char) :=
  if word.isPrefixOf cs then some (lexeme, cs.drop word.length) else none

/-- Takes one lexeme from the front. -/
def Lexeme.scan : List Char → Option (Lexeme × List Char)
  | [] => none
  | c :: rest =>
    if c = '{' then some (.leftBrace, rest)
    else if c = '}' then some (.rightBrace, rest)
    else if c = '[' then some (.leftBracket, rest)
    else if c = ']' then some (.rightBracket, rest)
    else if c = ':' then some (.colon, rest)
    else if c = ',' then some (.comma, rest)
    else if c = '"' then scanText rest
    else if c = 'n' then scanWord ['u', 'l', 'l'] .null rest
    else if c = 't' then scanWord ['r', 'u', 'e'] (.boolean true) rest
    else if c = 'f' then scanWord ['a', 'l', 's', 'e'] (.boolean false) rest
    else
      match scanNumber (c :: rest) with
      | some (n, rest) => some (.number n, rest)
      | none => none

/-- Takes at most so many lexemes and blanks. -/
def Lexeme.scanMany : Nat → List Char → Option (List Lexeme)
  | _, [] => some []
  | 0, _ :: _ => none
  | fuel + 1, c :: cs =>
    if isBlank c then scanMany fuel cs
    else
      match scan (c :: cs) with
      | some (lexeme, rest) => (scanMany fuel rest).map (lexeme :: ·)
      | none => none

/-- Takes all lexemes; each takes up one character at least. -/
def Lexeme.all (cs : List Char) : Option (List Lexeme) := scanMany cs.length cs

end StreamRehearsal.Json
