import StreamRehearsal.Document.Record
import StreamRehearsal.Json.Lexeme

/-! # Reading JSON

The second stage of reading JSON text: lexemes become a document.

* `Json.read text` is the document that the text spells, and `none` if it spells none or goes on
  after it.
* An object with a key that names no string becomes `Document.unusable`, like such text itself.
* `Json.dialect` says how records are read from these documents. -/

namespace StreamRehearsal.Json

/-- Records in JSON: a list has no items past the last field, and null says nothing. -/
def dialect : Dialect where
  allowsSurplus := false
  isNothing := fun
    | .null => true
    | _ => false

/-- The document of an object with these keys, some of which may name no string. -/
def ofFields (fields : List (Option String × Document)) : Document :=
  match fields.mapM fun f => f.1.map fun key => (key, f.2) with
  | some fields => .table fields
  | none => .unusable

/-- The key that a lexeme names: `none` if it is no text, `some none` if the text names no
string. -/
def key? : Lexeme → Option (Option String)
  | .text s => some (some s)
  | .brokenText => some none
  | _ => none

mutual

/-- Takes the lexemes of one value. -/
def takeValue : Nat → List Lexeme → Option (Document × List Lexeme)
  | 0, _ => none
  | _ + 1, [] => none
  | fuel + 1, lexeme :: rest =>
    match lexeme with
    | .null => some (.null, rest)
    | .boolean b => some (.boolean b, rest)
    | .number n => some (.number n, rest)
    | .text s => some (.text s, rest)
    | .brokenText => some (.unusable, rest)
    | .leftBracket =>
      match rest with
      | .rightBracket :: rest => some (.list [], rest)
      | _ =>
        match takeItems fuel rest with
        | some (items, rest) => some (.list items, rest)
        | none => none
    | .leftBrace =>
      match rest with
      | .rightBrace :: rest => some (.table [], rest)
      | _ =>
        match takeFields fuel rest with
        | some (fields, rest) => some (ofFields fields, rest)
        | none => none
    | _ => none

/-- Takes the lexemes of one or more values up to the closing bracket. -/
def takeItems : Nat → List Lexeme → Option (List Document × List Lexeme)
  | 0, _ => none
  | fuel + 1, lexemes =>
    match takeValue fuel lexemes with
    | some (item, .rightBracket :: rest) => some ([item], rest)
    | some (item, .comma :: rest) =>
      match takeItems fuel rest with
      | some (items, rest) => some (item :: items, rest)
      | none => none
    | _ => none

/-- Takes the lexemes of one or more keys and values up to the closing brace. -/
def takeFields : Nat → List Lexeme → Option (List (Option String × Document) × List Lexeme)
  | 0, _ => none
  | fuel + 1, lexemes =>
    match lexemes with
    | name :: .colon :: rest =>
      match key? name, takeValue fuel rest with
      | some key, some (value, .rightBrace :: rest) => some ([(key, value)], rest)
      | some key, some (value, .comma :: rest) =>
        match takeFields fuel rest with
        | some (fields, rest) => some ((key, value) :: fields, rest)
        | none => none
      | _, _ => none
    | _ => none

end

/-- The document that these lexemes spell; two steps for each lexeme are enough. -/
def ofLexemes (lexemes : List Lexeme) : Option Document :=
  match takeValue (2 * lexemes.length + 1) lexemes with
  | some (d, []) => some d
  | _ => none

/-- The document that a text spells. -/
def read (text : String) : Option Document := (Lexeme.all text.toList).bind ofLexemes

end StreamRehearsal.Json
