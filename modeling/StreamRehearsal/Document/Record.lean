import StreamRehearsal.Count
import StreamRehearsal.Document.Basic

/-! # Records in documents

A record is written as a table of its fields, or as a list of them in a fixed order.

* `Document.record?` finds the fields of a record.  A field that is known must not be repeated;
  fields that are unknown are passed over.
* `Fields.required` and `Fields.orElse` read a field, the latter with a default in place of a field
  that is absent.
* `Document.tagged?` takes apart a record of one of several kinds, which names its kind in a field
  of its own, or in front of the others.
* `Document.choice?` reads one of several names.
* A `Dialect` holds what the languages of documents disagree about. -/

namespace StreamRehearsal

/-- What the languages of documents disagree about. -/
structure Dialect where
  /-- Whether a list may go on after the last field of a record. -/
  allowsSurplus : Bool
  /-- Whether a document says nothing, so that it may stand beside a name that says all. -/
  isNothing : Document → Bool

/-- The fields of a record that are present. -/
abbrev Fields := List (String × Document)

namespace Fields

/-- The field with this name. -/
def get? (fs : Fields) (name : String) : Option Document :=
  (fs.find? fun f => f.1 == name).map Prod.snd

@[simp] theorem get?_nil (name : String) : get? [] name = none := rfl

theorem get?_cons (f : String × Document) (fs : Fields) (name : String) :
    get? (f :: fs) name = if f.1 = name then some f.2 else get? fs name := by
  by_cases h : f.1 = name <;> simp [get?, h]

/-- Reads a field that must be present. -/
def required {α : Type} (fs : Fields) (name : String) (read : Document → Option α) : Option α :=
  (fs.get? name).bind read

/-- Reads a field, with a default in its absence. -/
def orElse {α : Type} (fs : Fields) (name : String) (default : α) (read : Document → Option α) :
    Option α :=
  match fs.get? name with
  | some d => read d
  | none => some default

end Fields

namespace Document

/-! ### Plain values -/

/-- Reads text. -/
def text? : Document → Option String
  | text s => some s
  | _ => none

/-- Reads a natural number up to a limit. -/
def natural? (limit : Nat) : Document → Option Nat
  | number (.natural n) => if n ≤ limit then some n else none
  | _ => none

/-- Reads a 16-bit number. -/
def word16? (d : Document) : Option UInt16 := (d.natural? (UInt16.size - 1)).map UInt16.ofNat

/-- Reads a 32-bit number. -/
def word32? (d : Document) : Option UInt32 := (d.natural? (UInt32.size - 1)).map UInt32.ofNat

/-- Reads a 64-bit count. -/
def count? (d : Document) : Option UInt64 := (d.natural? maxCount).map UInt64.ofNat

/-- Reads a list of values of one sort. -/
def listOf? {α : Type} (read : Document → Option α) : Document → Option (List α)
  | list items => items.mapM read
  | _ => none

/-- Reads a value that may be null. -/
def optional? {α : Type} (read : Document → Option α) : Document → Option (Option α)
  | null => some none
  | d => (read d).map some

/-! ### Records -/

/-- The fields of a record with these names.  A list gives them in this order and must not end
before the first `least`. -/
def record? (dialect : Dialect) (names : List String) (least : Nat) : Document → Option Fields
  | table fields =>
    if names.all fun name => (fields.filter fun f => f.1 == name).length ≤ 1 then some fields
    else none
  | list items =>
    if least ≤ items.length ∧ (dialect.allowsSurplus ∨ items.length ≤ names.length) then
      some (names.zip items)
    else none
  | _ => none

/-- The kind of a record that names it, and the record without its kind. -/
def tagged? (tag : String) : Document → Option (String × Document)
  | table fields =>
    match fields.filter fun f => f.1 == tag with
    | [(_, text kind)] => some (kind, table (fields.filter fun f => f.1 != tag))
    | _ => none
  | list (text kind :: items) => some (kind, list items)
  | _ => none

/-- One of several names: as text, or as the only field of a table, with nothing as its value. -/
def choice? (dialect : Dialect) : Document → Option String
  | text name => some name
  | table [(name, d)] => if dialect.isNothing d then some name else none
  | _ => none

end Document

end StreamRehearsal
