import StreamRehearsal.Document.Basic

/-! # Tables under construction

A TOML text builds its tables piece by piece, and says of each piece whether it may be added to
later.

* A `Draft` is what a key stands for so far: a finished value, a table, or a growing list of
  tables.  A table has a `Standing`: opened by a header of its own, implied by the header of a
  table inside it, or made by dotted keys.
* `Draft.open?` and `Draft.openElement?` follow a header; `Draft.add?` adds a value under a dotted
  key to the table that the last header opened.
* A table is opened once; dotted keys reach into tables that dotted keys made, and no others. -/

namespace StreamRehearsal.Toml

/-- How a table came to be. -/
inductive Standing where
  /-- It has a header of its own. -/
  | opened
  /-- A table inside it has a header. -/
  | implied
  /-- Dotted keys made it. -/
  | dotted
  deriving DecidableEq, Repr

/-- What a key stands for so far. -/
inductive Draft where
  | value (d : Document)
  | table (standing : Standing) (entries : List (String × Draft))
  | elements (tables : List Draft)

namespace Draft

/-- The keys of a table and what they stand for. -/
abbrev Entries := List (String × Draft)

/-- What a key stands for. -/
def get? (key : String) (es : Entries) : Option Draft :=
  (es.find? fun e => e.1 == key).map Prod.snd

/-- The entries with something put in place of what a key stands for, or at the end. -/
def set (key : String) (draft : Draft) : Entries → Entries
  | [] => [(key, draft)]
  | e :: rest => if e.1 = key then (key, draft) :: rest else e :: set key draft rest

/-- Changes the table at the end of a path.  Tables on the way are made where they are missing;
of a list of tables the last is followed.  A path of dotted keys does not lead through tables with
a header of their own. -/
def change (dotted : Bool) (f : Standing → Entries → Option Entries) :
    List String → Standing → Entries → Option Entries
  | [], standing, es => f standing es
  | key :: path, _, es =>
    match get? key es with
    | none =>
      let made := if dotted then Standing.dotted else Standing.implied
      (change dotted f path made []).map fun inner => set key (table made inner) es
    | some (value _) => none
    | some (table standing inner) =>
      if dotted ∧ standing = .opened then none
      else
        (change dotted f path standing inner).map fun inner =>
          set key (table standing inner) es
    | some (elements tables) =>
      match tables.getLast? with
      | some (table standing inner) =>
        (change dotted f path standing inner).map fun inner =>
          set key (elements (tables.dropLast ++ [table standing inner])) es
      | _ => none

/-- Puts a value under a key that stands for nothing yet.  A dotted key adds to tables that dotted
keys made, and a plain key to others. -/
def addHere (isDotted : Bool) (key : String) (d : Document) (standing : Standing)
    (es : Entries) : Option Entries :=
  if (decide (standing = .dotted)) ≠ isDotted then none
  else if (get? key es).isSome then none
  else some (es ++ [(key, value d)])

/-- Puts a value under a dotted key of a table. -/
def add? (path : List String) (d : Document) (standing : Standing) (es : Entries) :
    Option Entries :=
  match path.getLast? with
  | some key =>
    change true (addHere (path.length ≠ 1) key d) path.dropLast standing es
  | none => none

/-- Opens a table: one that stands for nothing yet, or one that was implied. -/
def open? (path : List String) (root : Entries) : Option Entries :=
  match path.getLast? with
  | some key =>
    change false (fun _ es =>
      match get? key es with
      | none => some (set key (table .opened []) es)
      | some (table .implied inner) => some (set key (table .opened inner) es)
      | some _ => none) path.dropLast .opened root
  | none => none

/-- Opens one more table of a list of tables. -/
def openElement? (path : List String) (root : Entries) : Option Entries :=
  match path.getLast? with
  | some key =>
    change false (fun _ es =>
      match get? key es with
      | none => some (set key (elements [table .opened []]) es)
      | some (elements tables) => some (set key (elements (tables ++ [table .opened []])) es)
      | some _ => none) path.dropLast .opened root
  | none => none

/-- Adds a value under a dotted key to the table with this header. -/
def addUnder? (header path : List String) (d : Document) (root : Entries) : Option Entries :=
  change false (add? path d) header .opened root

mutual

/-- What a draft stands for when it is finished. -/
def finish : Draft → Document
  | value d => d
  | table _ es => .table (finishEntries es)
  | elements tables => .list (finishTables tables)

/-- What every entry stands for when it is finished. -/
def finishEntries : List (String × Draft) → List (String × Document)
  | [] => []
  | (key, draft) :: rest => (key, finish draft) :: finishEntries rest

/-- What every table of a list stands for when it is finished. -/
def finishTables : List Draft → List Document
  | [] => []
  | draft :: rest => finish draft :: finishTables rest

end

end Draft

end StreamRehearsal.Toml
