import StreamRehearsal.Document.Number

/-! # Documents

A document is what is left of a structured text when its spelling is forgotten.  Configurations
and scenarios are read from documents, whatever the language of the text.

* `Document` is a tree of lists and tables; a table keeps the order of its fields, and repetitions
  among them.
* `Document.unusable` is a value that cannot be looked at, only passed over: it holds text that is
  no sequence of Unicode characters.
* `Document.fits room d` holds if all of `d` can be looked at: nothing in it is unusable, its
  numbers are finite, and its lists and tables are nested at most `room` deep. -/

namespace StreamRehearsal

/-- What a structured text says. -/
inductive Document where
  | null
  | boolean (b : Bool)
  | number (n : Number)
  | text (s : String)
  | list (items : List Document)
  | table (fields : List (String × Document))
  | unusable

namespace Document

/-- The document of a natural number. -/
def natural (n : Nat) : Document := number (Number.natural n)

mutual

/-- Whether all of a document can be looked at, with this much room for nesting. -/
def fits (room : Nat) : Document → Bool
  | null => true
  | boolean _ => true
  | number n => n.isFinite
  | text _ => true
  | list items => 0 < room && fitsItems (room - 1) items
  | table fields => 0 < room && fitsFields (room - 1) fields
  | unusable => false

/-- Whether all of every item can be looked at. -/
def fitsItems (room : Nat) : List Document → Bool
  | [] => true
  | d :: rest => fits room d && fitsItems room rest

/-- Whether all of every field can be looked at. -/
def fitsFields (room : Nat) : List (String × Document) → Bool
  | [] => true
  | (_, d) :: rest => fits room d && fitsFields room rest

end

end Document

end StreamRehearsal
