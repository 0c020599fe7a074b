import StreamRehearsal.Json.Lexeme

/-! # Lexical structure of TOML

What is smaller than a value: blanks, comments, ends of lines, text and keys.  Every scanner takes
what it looks for from the front and returns the rest.

* `endLine?` takes what may follow the last thing on a line, and the end of the line.
* `scanText?` takes text in any of its four forms: with double quotes and escapes or with single
  quotes and none, on one line or on many.
* `scanPath?` takes a key, which may be dotted.  A key has fewer than `nestingLimit` parts. -/

namespace StreamRehearsal.Toml

/-- The depth of nesting, and the number of parts of a key, from which on a text is refused. -/
def nestingLimit : Nat := 80

/-! ### Blanks and comments -/

/-- Whether a character is a blank within a line. -/
def isBlank (c : Char) : Bool := c == ' ' || c == '\t'

/-- Whether a character may stand in comments and text: the tab, and all but control characters of
ASCII. -/
def isPrintable (c : Char) : Bool := c == '\t' || (0x20 ≤ c.toNat && c.toNat != 0x7f)

/-- The text without the blanks at its front. -/
def skipBlanks (cs : List Char) : List Char := cs.dropWhile isBlank

/-- Takes the end of a line. -/
def newLine? : List Char → Option (List Char)
  | '\n' :: rest => some rest
  | '\r' :: '\n' :: rest => some rest
  | _ => none

/-- The text without the comment at its front, if there is one. -/
def skipComment : List Char → List Char
  | '#' :: rest => rest.dropWhile isPrintable
  | cs => cs

/-- Takes blanks, a comment and the end of the line or of the text. -/
def endLine? (cs : List Char) : Option (List Char) :=
  match skipComment (skipBlanks cs) with
  | [] => some []
  | rest => newLine? rest

/-- The text without the blanks, comments and ends of lines at its front.  The flag tells that a
comment has been begun. -/
def skipLines : Bool → List Char → List Char
  | _, [] => []
  | inComment, c :: rest =>
    if c = '\n' ∨ (c = '\r' ∧ rest.head? = some '\n') then skipLines false rest
    else if inComment && isPrintable c then skipLines true rest
    else if !inComment && isBlank c then skipLines false rest
    else if !inComment && c == '#' then skipLines true rest
    else c :: rest

/-! ### Text -/

/-- The character with this code point. -/
def character? (n : Nat) : Option Char := if h : n.isValidChar then some ⟨n.toUInt32, by
    have hn : n < UInt32.size := by
      simp only [Nat.isValidChar, UInt32.size] at *
      omega
    simpa [UInt32.isValidChar, Nat.toUInt32, UInt32.toNat_ofNat_of_lt' hn] using h⟩ else none

/-- The character that a backslash and this letter stand for. -/
def escaped? (c : Char) : Option Char :=
  if c = '"' ∨ c = '\\' then some c
  else if c = 'b' then some '\x08'
  else if c = 'f' then some '\x0c'
  else if c = 'n' then some '\n'
  else if c = 'r' then some '\r'
  else if c = 't' then some '\t'
  else none

/-- Puts a character in front of scanned text. -/
def push (c : Char) : Option (List Char × List Char) → Option (List Char × List Char)
  | some (text, rest) => some (c :: text, rest)
  | none => none

/-- Puts the character with this code point in hexadecimal in front of scanned text. -/
def pushCode (digits : List Char) (scanned : Option (List Char × List Char)) :
    Option (List Char × List Char) :=
  match (Json.hexValue? digits).bind character? with
  | some c => push c scanned
  | none => none

/-- Takes text on one line, up to its closing mark. -/
def scanLine (mark : Char) : List Char → Option (List Char × List Char)
  | [] => none
  | c :: rest =>
    if c = mark then some ([], rest)
    else if c = '\\' ∧ mark = '"' then
      match rest with
      | [] => none
      | e :: rest =>
        if e = 'u' then
          match rest with
          | h₁ :: h₂ :: h₃ :: h₄ :: rest => pushCode [h₁, h₂, h₃, h₄] (scanLine mark rest)
          | _ => none
        else if e = 'U' then
          match rest with
          | h₁ :: h₂ :: h₃ :: h₄ :: h₅ :: h₆ :: h₇ :: h₈ :: rest =>
            pushCode [h₁, h₂, h₃, h₄, h₅, h₆, h₇, h₈] (scanLine mark rest)
          | _ => none
        else
          match escaped? e with
          | some c => push c (scanLine mark rest)
          | none => none
    else if isPrintable c then push c (scanLine mark rest)
    else none

/-- Whether the line ends after blanks. -/
def isBlankLine (cs : List Char) : Bool := (newLine? (skipBlanks cs)).isSome

/-- Takes text on many lines, up to its three closing marks, before which two more may stand.  A
backslash at the end of a line drops all blanks and ends of lines after it; the flag tells that
this is going on. -/
def scanLines (mark : Char) : Bool → List Char → Option (List Char × List Char)
  | _, [] => none
  | trimming, c :: rest =>
    if trimming && (isBlank c || c == '\n' || (c == '\r' && rest.head? == some '\n')) then
      scanLines mark true rest
    else if c = mark then
      match rest with
      | c₂ :: c₃ :: after =>
        if c₂ = mark ∧ c₃ = mark then
          let extra := min (after.takeWhile (· == mark)).length 2
          some (List.replicate extra mark, after.drop extra)
        else push c (scanLines mark false (c₂ :: c₃ :: after))
      | _ => none
    else if c = '\\' ∧ mark = '"' then
      if isBlankLine rest then scanLines mark true rest
      else
        match rest with
        | [] => none
        | e :: rest =>
          if e = 'u' then
            match rest with
            | h₁ :: h₂ :: h₃ :: h₄ :: rest =>
              pushCode [h₁, h₂, h₃, h₄] (scanLines mark false rest)
            | _ => none
          else if e = 'U' then
            match rest with
            | h₁ :: h₂ :: h₃ :: h₄ :: h₅ :: h₆ :: h₇ :: h₈ :: rest =>
              pushCode [h₁, h₂, h₃, h₄, h₅, h₆, h₇, h₈] (scanLines mark false rest)
            | _ => none
          else
            match escaped? e with
            | some c => push c (scanLines mark false rest)
            | none => none
    else if c = '\r' ∧ rest.head? = some '\n' then scanLines mark false rest
    else if c = '\n' ∨ isPrintable c then push c (scanLines mark false rest)
    else none

/-- Whether a character opens text. -/
def isMark (c : Char) : Bool := c == '"' || c == '\''

/-- The text without the end of a line at its front, if there is one. -/
def dropNewLine (cs : List Char) : List Char := (newLine? cs).getD cs

/-- Takes text after its first mark.  Three marks open text on many lines, and the end of a line
right after them is dropped. -/
def scanText? (mark : Char) (cs : List Char) : Option (List Char × List Char) :=
  match cs with
  | c₂ :: c₃ :: rest =>
    if c₂ = mark ∧ c₃ = mark then scanLines mark false (dropNewLine rest) else scanLine mark cs
  | _ => scanLine mark cs

/-! ### Keys -/

/-- Whether a character may stand in a key without marks. -/
def isBare (c : Char) : Bool := c.isAlphanum || c == '-' || c == '_'

/-- Takes one part of a key: bare characters, or text on one line. -/
def scanKey? : List Char → Option (String × List Char)
  | [] => none
  | c :: rest =>
    if isMark c then
      match scanLine c rest with
      | some (key, rest) => some (String.ofList key, rest)
      | none => none
    else
      match (c :: rest).takeWhile isBare with
      | [] => none
      | key => some (String.ofList key, (c :: rest).dropWhile isBare)

/-- Takes at most so many parts of a key, with dots between them and blanks around them. -/
def scanParts : Nat → List Char → Option (List String × List Char)
  | 0, _ => none
  | fuel + 1, cs =>
    match scanKey? (skipBlanks cs) with
    | some (key, rest) =>
      match skipBlanks rest with
      | '.' :: rest =>
        match scanParts fuel rest with
        | some (keys, rest) => some (key :: keys, rest)
        | none => none
      | rest => some ([key], rest)
    | none => none

/-- Takes a key and the blanks around it. -/
def scanPath? (cs : List Char) : Option (List String × List Char) :=
  scanParts (nestingLimit - 1) cs

end StreamRehearsal.Toml
