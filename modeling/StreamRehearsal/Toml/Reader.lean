import StreamRehearsal.Document.Record
import StreamRehearsal.Toml.Draft
import StreamRehearsal.Toml.Scalar

/-! # Reading TOML

A TOML text is a list of lines: headers of tables, keys with their values, blanks and comments.

* `Toml.read text` is the document that the text spells, a table, and `none` if it spells none.
* `Toml.dialect` says how records are read from these documents. -/

namespace StreamRehearsal.Toml

/-- Records in TOML: a list may go on after the last field, and an empty table or list says
nothing. -/
def dialect : Dialect where
  allowsSurplus := true
  isNothing := fun
    | .table [] => true
    | .list [] => true
    | _ => false

/-- Takes a word from the front. -/
def scanWord? (word : List Char) (cs : List Char) : Option (List Char) :=
  if word.isPrefixOf cs then some (cs.drop word.length) else none

mutual

/-- Takes one value, inside so many others. -/
def takeValue : Nat → Nat → List Char → Option (Document × List Char)
  | 0, _, _ => none
  | _ + 1, _, [] => none
  | fuel + 1, depth, c :: rest =>
    if isMark c then
      match scanText? c rest with
      | some (s, rest) => some (.text (String.ofList s), rest)
      | none => none
    else if c = '[' then
      if depth + 1 < nestingLimit then
        match takeItems fuel (depth + 1) rest with
        | some (items, rest) => some (.list items, rest)
        | none => none
      else none
    else if c = '{' then
      if depth + 1 < nestingLimit then
        match takeEntries fuel (depth + 1) true [] (skipBlanks rest) with
        | some (entries, rest) => some (.table (Draft.finishEntries entries), rest)
        | none => none
      else none
    else if c = 't' then (scanWord? ['r', 'u', 'e'] rest).map fun rest => (.boolean true, rest)
    else if c = 'f' then
      (scanWord? ['a', 'l', 's', 'e'] rest).map fun rest => (.boolean false, rest)
    else scanScalar? (c :: rest)

/-- Takes the items of a list up to its closing bracket; a comma may stand before that. -/
def takeItems : Nat → Nat → List Char → Option (List Document × List Char)
  | 0, _, _ => none
  | fuel + 1, depth, cs =>
    match skipLines false cs with
    | ']' :: rest => some ([], rest)
    | cs =>
      match takeValue fuel depth cs with
      | none => none
      | some (item, rest) =>
        match skipLines false rest with
        | ']' :: rest => some ([item], rest)
        | ',' :: rest =>
          match takeItems fuel depth rest with
          | some (items, rest) => some (item :: items, rest)
          | none => none
        | _ => none

/-- Takes the keys and values of a table on one line up to its closing brace, which may follow at
once at first, but not after a comma. -/
def takeEntries : Nat → Nat → Bool → Draft.Entries → List Char →
    Option (Draft.Entries × List Char)
  | 0, _, _, _, _ => none
  | fuel + 1, depth, isFirst, entries, cs =>
    match isFirst, cs with
    | true, '}' :: rest => some (entries, rest)
    | _, cs =>
      match scanPath? cs with
      | some (path, '=' :: rest) =>
        match takeValue fuel depth (skipBlanks rest) with
        | none => none
        | some (d, rest) =>
          match Draft.add? path d .opened entries with
          | none => none
          | some entries =>
            match skipBlanks rest with
            | '}' :: rest => some (entries, rest)
            | ',' :: rest => takeEntries fuel depth false entries (skipBlanks rest)
            | _ => none
      | _ => none

end

/-- A document so far: all tables, and the header of the one that is added to. -/
structure Progress where
  root : Draft.Entries
  header : List String

/-- Takes what a line holds besides blanks and a comment: a header, or a key and its value.  Two
steps for each character are enough for a value. -/
def takeLine (p : Progress) (cs : List Char) : Option (Progress × List Char) :=
  match cs with
  | '[' :: '[' :: rest =>
    match scanPath? rest with
    | some (path, ']' :: ']' :: rest) =>
      (Draft.openElement? path p.root).map fun root => (⟨root, path⟩, rest)
    | _ => none
  | '[' :: rest =>
    match scanPath? rest with
    | some (path, ']' :: rest) =>
      (Draft.open? path p.root).map fun root => (⟨root, path⟩, rest)
    | _ => none
  | cs =>
    match scanPath? cs with
    | some (path, '=' :: rest) =>
      match takeValue (2 * rest.length + 1) 0 (skipBlanks rest) with
      | some (d, rest) =>
        (Draft.addUnder? p.header path d p.root).map fun root => (⟨root, p.header⟩, rest)
      | none => none
    | _ => none

/-- Takes at most so many lines. -/
def takeLines : Nat → Progress → List Char → Option Progress
  | _, p, [] => some p
  | 0, _, _ :: _ => none
  | fuel + 1, p, c :: cs =>
    match endLine? (c :: cs) with
    | some rest => takeLines fuel p rest
    | none =>
      match takeLine p (skipBlanks (c :: cs)) with
      | some (p, rest) =>
        match endLine? rest with
        | some rest => takeLines fuel p rest
        | none => none
      | none => none

/-- The text without the mark that tells the order of bytes. -/
def dropByteOrderMark : List Char → List Char
  | [] => []
  | c :: rest => if c = '\ufeff' then rest else c :: rest

/-- The document that a text spells; each line takes up one character at least. -/
def read (text : String) : Option Document :=
  let cs := dropByteOrderMark text.toList
  (takeLines cs.length ⟨[], []⟩ cs).map fun p => .table (Draft.finishEntries p.root)

end StreamRehearsal.Toml
