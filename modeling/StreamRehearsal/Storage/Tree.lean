import StreamRehearsal.Text.Cut

/-! # Directory trees

A directory holds files and other directories.  It is assumed that it holds nothing else: no links
and no devices.

* A `Directory` lists its entries, each a `Node`: a file or a directory.  `Directory.addFileAt` and
  `Directory.addDirectoryAt` build trees from paths.
* In a path, empty names and `.` stay where they are and `..` goes up (`Directory.onward`).
* `Directory.walk` follows names from a directory with others above it.  The directory above the
  topmost one is itself.
* `OpenFault` says why a path leads nowhere. -/

namespace StreamRehearsal

/-- A file or a directory. -/
inductive Node where
  | file (bytes : ByteArray)
  | directory (entries : List (String × Node))

/-- The entries of a directory and their names. -/
abbrev Directory := List (String × Node)

/-- Why a path leads nowhere. -/
inductive OpenFault where
  /-- There is no such entry. -/
  | missing
  /-- The path goes on after a file. -/
  | throughFile
  /-- A name, or the path as a whole, is too long. -/
  | nameTooLong
  /-- The path holds the null character. -/
  | nullCharacter
  deriving DecidableEq, Repr

/-- The words for a fault. -/
def OpenFault.message : OpenFault → String
  | missing => "No such file or directory (os error 2)"
  | throughFile => "Not a directory (os error 20)"
  | nameTooLong => "File name too long (os error 36)"
  | nullCharacter => "file name contained an unexpected NUL byte"

namespace Directory

/-! ### Entries -/

/-- The entry with this name. -/
def child? (name : String) (d : Directory) : Option Node :=
  (d.find? fun e => e.1 == name).map Prod.snd

@[simp] theorem child?_nil (name : String) : child? name [] = none := rfl

theorem child?_cons (name : String) (e : String × Node) (d : Directory) :
    child? name (e :: d) = if e.1 = name then some e.2 else child? name d := by
  by_cases h : e.1 = name <;> simp [child?, h]

/-- The entries of the directory with this name; there are none if it is missing or a file. -/
def below (name : String) (d : Directory) : Directory :=
  match d.child? name with
  | some (.directory es) => es
  | _ => []

/-- The directory with one entry put in place of the entry of the same name, or at the end. -/
def put (name : String) (node : Node) : Directory → Directory
  | [] => [(name, node)]
  | e :: rest => if e.1 = name then (name, node) :: rest else e :: put name node rest

@[simp] theorem child?_put_self (name : String) (node : Node) (d : Directory) :
    (d.put name node).child? name = some node := by
  induction d with
  | nil => simp [put, child?_cons]
  | cons e d ih => by_cases h : e.1 = name <;> simp [put, child?_cons, h, ih]

theorem child?_put_of_ne {name other : String} (h : name ≠ other) (node : Node) (d : Directory) :
    (d.put name node).child? other = d.child? other := by
  induction d with
  | nil => simp [put, child?_cons, h]
  | cons e d ih =>
    by_cases he : e.1 = name
    · simp [put, child?_cons, he, h]
    · simp only [put, if_neg he, child?_cons, ih]

/-! ### Paths -/

/-- The names of a path. -/
def names (path : String) : List String := (path.toList.splitOn '/').map String.ofList

/-- Where one name of a path leads, as the names from the root on. -/
def onward (here : List String) (name : String) : List String :=
  if name = "" ∨ name = "." then here
  else if name = ".." then here.dropLast
  else here ++ [name]

@[simp] theorem onward_empty (here : List String) : onward here "" = here := by simp [onward]

@[simp] theorem onward_dot (here : List String) : onward here "." = here := by simp [onward]

@[simp] theorem onward_up (here : List String) : onward here ".." = here.dropLast := by
  simp [onward]

/-- A name and `..` after it lead back. -/
theorem onward_onward_up {name : String} (h : name ≠ "" ∧ name ≠ "." ∧ name ≠ "..")
    (here : List String) : onward (onward here name) ".." = here := by
  simp [onward, h]

/-! ### Building trees -/

/-- The tree with a file at the end of a list of names; directories on the way are made where they
are missing. -/
def addFile (bytes : ByteArray) : List String → Directory → Directory
  | [], d => d
  | [name], d => d.put name (.file bytes)
  | name :: rest, d => d.put name (.directory (addFile bytes rest (d.below name)))

/-- The tree with directories for a list of names, each inside the one before. -/
def addDirectory : List String → Directory → Directory
  | [], d => d
  | name :: rest, d => d.put name (.directory (addDirectory rest (d.below name)))

/-- The tree with a directory wherever the names of a path lead on the way, and where they end. -/
def makeWay (way : List String) (d : Directory) : List String × Directory :=
  way.foldl (fun (here, d) name => (onward here name, d.addDirectory (onward here name))) ([], d)

/-- The tree with a directory at the end of a path. -/
def addDirectoryAt (path : String) (d : Directory) : Directory := (makeWay (names path) d).2

/-- The tree with a file at the end of a path; the directories on the way are made first. -/
def addFileAt (bytes : ByteArray) (path : String) (d : Directory) : Directory :=
  let way := names path
  let (here, made) := makeWay way.dropLast d
  made.addFile bytes (onward here (way.getLastD ""))

/-! ### Following paths -/

/-- The longest name of an entry, in bytes. -/
def longestName : Nat := 255

/-- Follows names from a directory; the directories above it are listed from its parent up. -/
def walk : List String → Directory → List Directory → Except OpenFault Node
  | [], here, _ => .ok (.directory here)
  | name :: rest, here, above =>
    if name = "" ∨ name = "." then walk rest here above
    else if name = ".." then
      match above with
      | parent :: higher => walk rest parent higher
      | [] => walk rest here []
    else if longestName < name.utf8ByteSize then .error .nameTooLong
    else
      match here.child? name with
      | some (.directory es) => walk rest es (here :: above)
      | some (.file bytes) => if rest = [] then .ok (.file bytes) else .error .throughFile
      | none => .error .missing

end Directory

end StreamRehearsal
