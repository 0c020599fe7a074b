import StreamRehearsal.Storage.Tree

/-! # Following a single name

One name that is followed from a directory leads to an entry of it, or to the directory itself or
the one above it, and never to a file further down or further up.

* `Directory.Holds d name bytes` says that a directory has a file among its own entries.
* `Directory.walk_singleton` follows one name from any directory, whatever is above it.
* `Directory.walk_singleton_eq_file_iff` says when it leads to a file, and
  `Directory.walk_singleton_eq_error` why it may lead nowhere. -/

namespace StreamRehearsal.Directory

/-- A name that an entry of a directory can have. -/
structure IsEntryName (name : String) : Prop where
  ne_empty : name ≠ ""
  ne_dot : name ≠ "."
  ne_up : name ≠ ".."
  slash_notMem : '/' ∉ name.toList
  null_notMem : '\x00' ∉ name.toList
  size_le : name.utf8ByteSize ≤ longestName

/-- Among the entries of the directory itself, those below it left out, is a file with this name and
these bytes. -/
def Holds (d : Directory) (name : String) (bytes : ByteArray) : Prop :=
  IsEntryName name ∧ d.child? name = some (.file bytes)

/-- A name that cannot even be looked for: it is too long, or holds the null character, which no
address of a request does. -/
def IsUnusable (name : String) : Prop :=
  longestName < name.utf8ByteSize ∨ '\x00' ∈ name.toList

/-! ### One name from any directory -/

variable {name : String}

theorem walk_singleton (name : String) (here : Directory) (above : List Directory) :
    walk [name] here above =
      if name = "" ∨ name = "." then .ok (.directory here)
      else if name = ".." then .ok (.directory (above.headD here))
      else if longestName < name.utf8ByteSize then .error .nameTooLong
      else
        match here.child? name with
        | some node => .ok node
        | none => .error .missing := by
  unfold walk
  split
  · rfl
  split
  · cases above with
    | nil => rfl
    | cons parent higher => rfl
  split
  · rfl
  cases here.child? name with
  | none => rfl
  | some node =>
      cases node with
      | file bytes => rfl
      | directory entries => rfl

/-- Whatever is above a directory, one name leads to a file only if that is an entry of it. -/
theorem walk_singleton_eq_file_iff {here : Directory} {above : List Directory}
    {bytes : ByteArray} :
    walk [name] here above = .ok (.file bytes) ↔
      (name ≠ "" ∧ name ≠ "." ∧ name ≠ "..") ∧ name.utf8ByteSize ≤ longestName ∧
        here.child? name = some (.file bytes) := by
  rw [walk_singleton]
  constructor
  · intro h
    split at h
    · exact absurd (Except.ok.inj h) nofun
    next hself =>
    split at h
    · exact absurd (Except.ok.inj h) nofun
    next hup =>
    split at h
    · exact absurd h nofun
    next hsize =>
    rw [not_or] at hself
    refine ⟨⟨hself.1, hself.2, hup⟩, Nat.le_of_not_lt hsize, ?_⟩
    cases hchild : here.child? name with
    | none => rw [hchild] at h; exact absurd h nofun
    | some node =>
        rw [hchild] at h
        rw [Except.ok.inj h]
  · rintro ⟨⟨hempty, hdot, hup⟩, hsize, hchild⟩
    rw [if_neg (not_or.2 ⟨hempty, hdot⟩), if_neg hup, if_neg (Nat.not_lt.2 hsize), hchild]

/-- Looking for a name that an entry can have is looking for the entry. -/
theorem walk_singleton_of_isEntryName (h : IsEntryName name) (here : Directory)
    (above : List Directory) :
    walk [name] here above =
      match here.child? name with
      | some node => .ok node
      | none => .error .missing := by
  rw [walk_singleton, if_neg (not_or.2 ⟨h.ne_empty, h.ne_dot⟩), if_neg h.ne_up,
    if_neg (Nat.not_lt.2 h.size_le)]

theorem walk_singleton_of_longestName_lt (h : longestName < name.utf8ByteSize) (here : Directory)
    (above : List Directory) : walk [name] here above = .error .nameTooLong := by
  have hself : ¬ (name = "" ∨ name = ".") := by
    rintro (rfl | rfl)
    · exact absurd h (by decide)
    · exact absurd h (by decide)
  have hup : name ≠ ".." := by
    rintro rfl
    exact absurd h (by decide)
  rw [walk_singleton, if_neg hself, if_neg hup, if_pos h]

/-- One name that is not too long leads somewhere or is missing. -/
theorem walk_singleton_eq_error {here : Directory} {above : List Directory} {fault : OpenFault}
    (hsize : name.utf8ByteSize ≤ longestName) (h : walk [name] here above = .error fault) :
    fault = .missing := by
  rw [walk_singleton] at h
  split at h
  · exact absurd h nofun
  split at h
  · exact absurd h nofun
  split at h
  next hlong => exact absurd hlong (Nat.not_lt.2 hsize)
  split at h
  · exact absurd h nofun
  · exact (Except.error.inj h).symm

end StreamRehearsal.Directory
