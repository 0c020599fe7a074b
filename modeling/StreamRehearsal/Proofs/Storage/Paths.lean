import StreamRehearsal.Proofs.Storage.Names
import StreamRehearsal.Storage.FileSystem

/-! # Names at the end of a path

A name is put at the end of the path of a directory, and the outcome is opened.  Whatever the path
of the directory looks like, this is the same as looking for the name in the directory itself.

* `Directory.exists_walk_append` says that a walk can be cut where it is at a directory, and
  `Directory.walk_append_cons_self` that names which stay where they are can be left out.
* `FileSystem.walk_route_pathIn` turns the path of a name in a directory into the way to the
  directory and one name more.
* `FileSystem.Hosts fs dir media` says that the path `dir` leads to the directory `media`.
* `FileSystem.Hosts.find_pathIn_eq_file_iff` says which files are found under a name without a
  slash, and `FileSystem.Hosts.find_pathIn_eq_fault_iff` that only unusable names
  (`FileSystem.IsUnusable`) are a fault. -/

namespace StreamRehearsal

namespace Directory

/-! ### Walks -/

/-- A name that stays where it is changes nothing, as long as the walk goes on after it. -/
theorem walk_append_cons_self {name : String} (hname : name = "" ∨ name = ".")
    {rest : List String} (hrest : rest ≠ []) (front : List String) (here : Directory)
    (above : List Directory) :
    walk (front ++ name :: rest) here above = walk (front ++ rest) here above := by
  induction front generalizing here above with
  | nil => simp only [List.nil_append, walk, if_pos hname]
  | cons first front ih =>
      have hlong : front ++ name :: rest ≠ [] := by simp
      have hshort : front ++ rest ≠ [] := by simp [hrest]
      simp only [List.cons_append, walk, ih, if_neg hlong, if_neg hshort]

/-- A walk that leads to a directory goes on from there. -/
theorem exists_walk_append {front : List String} {here entries : Directory}
    {above : List Directory} (h : walk front here above = .ok (.directory entries)) :
    ∃ higher, ∀ rest, walk (front ++ rest) here above = walk rest entries higher := by
  induction front generalizing here above with
  | nil =>
      obtain rfl : here = entries := Node.directory.inj (Except.ok.inj h)
      exact ⟨above, fun _ => rfl⟩
  | cons name front ih =>
      simp only [List.cons_append, walk] at h ⊢
      split at h
      next hself =>
        simp only [if_pos hself]
        exact ih h
      next hself =>
      simp only [if_neg hself]
      split at h
      next hup =>
        simp only [if_pos hup]
        cases above with
        | nil => exact ih h
        | cons parent higher => exact ih h
      next hup =>
      simp only [if_neg hup]
      split at h
      next => cases h
      next hlong =>
      simp only [if_neg hlong]
      cases hchild : here.child? name with
      | none =>
          rw [hchild] at h
          cases h
      | some node =>
          rw [hchild] at h
          cases node with
          | directory es => exact ih h
          | file bytes =>
              -- a file is not passed, and is no directory at the end
              dsimp only at h
              split at h <;> cases h

theorem names_of_slash_notMem {name : String} (h : '/' ∉ name.toList) : names name = [name] := by
  rw [names, List.splitOn_eq_singleton h, List.map_singleton, String.ofList_toList]

theorem names_of_toList_eq {path front name : String} (h : '/' ∉ name.toList)
    (hpath : path.toList = front.toList ++ '/' :: name.toList) :
    names path = names front ++ [name] := by
  rw [names, hpath, List.splitOn_append_cons_self, List.splitOn_eq_singleton h, List.map_append,
    List.map_singleton, String.ofList_toList]
  rfl

end Directory

namespace FileSystem

variable {fs : FileSystem} {dir name : String} {media : Directory}

/-- The path leads to this directory.  The empty path stands for the directory in which the program
is running. -/
def Hosts (fs : FileSystem) (dir : String) (media : Directory) : Prop :=
  fs.find (if dir = "" then "." else dir) = .ok (.directory media)

/-- A name that cannot even be looked for at the end of a path: the name is unusable itself, or makes
the path too long. -/
def IsUnusable (dir name : String) : Prop :=
  Directory.IsUnusable name ∨ longestPath < (pathIn dir name).utf8ByteSize

/-! ### The path of a name in a directory -/

theorem pathIn_empty (name : String) : pathIn "" name = name := by simp [pathIn]

theorem pathIn_of_ne_empty (hdir : dir ≠ "") (h : '/' ∉ name.toList) :
    pathIn dir name =
      if dir.toList.getLast? = some '/' then dir ++ name else dir ++ "/" ++ name := by
  have hhead : name.toList.head? ≠ some '/' := fun e => h (List.mem_of_head? e)
  rw [pathIn, if_neg (not_or.2 ⟨hhead, hdir⟩)]

/-- The name is at the end of the path, behind a slash if it is not the whole path. -/
theorem exists_toList_pathIn (hdir : dir ≠ "") (h : '/' ∉ name.toList) :
    ∃ front : String, (dir = front ∨ dir.toList = front.toList ++ ['/']) ∧
      (pathIn dir name).toList = front.toList ++ '/' :: name.toList := by
  rw [pathIn_of_ne_empty hdir h]
  split
  next hlast =>
    obtain ⟨front, hfront⟩ := List.getLast?_eq_some_iff.1 hlast
    refine ⟨String.ofList front, .inr ?_, ?_⟩
    · rw [String.toList_ofList, hfront]
    · rw [String.toList_append, hfront, String.toList_ofList, List.append_assoc]
      rfl
  next => exact ⟨dir, .inl rfl, by simp⟩

/-- The path of a name in a directory starts where that of the directory does. -/
theorem head?_pathIn (hdir : dir ≠ "") (h : '/' ∉ name.toList) :
    (pathIn dir name).toList.head? = dir.toList.head? := by
  obtain ⟨c, cs, hchars⟩ := List.exists_cons_of_ne_nil (mt String.toList_eq_nil_iff.1 hdir)
  rw [pathIn_of_ne_empty hdir h]
  split
  · rw [String.toList_append, hchars, List.cons_append, List.head?_cons, List.head?_cons]
  · rw [String.toList_append, String.toList_append, hchars, List.cons_append, List.cons_append,
      List.head?_cons, List.head?_cons]

theorem null_mem_pathIn (h : '/' ∉ name.toList) (hdir : '\x00' ∉ dir.toList) :
    '\x00' ∈ (pathIn dir name).toList ↔ '\x00' ∈ name.toList := by
  by_cases hempty : dir = ""
  · rw [hempty, pathIn_empty]
  · obtain ⟨front, hfront, hpath⟩ := exists_toList_pathIn hempty h
    have hnull : '\x00' ∉ front.toList := by
      rcases hfront with rfl | hslash
      · exact hdir
      · exact fun hmem => hdir (hslash ▸ List.mem_append_left _ hmem)
    simp [hpath, hnull]

theorem pathIn_eq_empty_iff (h : '/' ∉ name.toList) :
    pathIn dir name = "" ↔ dir = "" ∧ name = "" := by
  by_cases hempty : dir = ""
  · simp [hempty, pathIn_empty]
  · obtain ⟨front, -, hpath⟩ := exists_toList_pathIn hempty h
    have hne : pathIn dir name ≠ "" := by
      intro e
      rw [e] at hpath
      simp at hpath
    exact iff_of_false hne fun e => hempty e.1

/-! ### Opening -/

theorem find_eq_ok {path : String} {node : Node} (h : fs.find path = .ok node) :
    '\x00' ∉ path.toList ∧ Directory.walk (fs.route path) fs.root [] = .ok node := by
  unfold find at h
  split at h
  · exact absurd h nofun
  next hnull =>
  split at h
  · exact absurd h nofun
  split at h
  · exact absurd h nofun
  · exact ⟨by simpa using hnull, h⟩

/-- Two paths that start alike are followed from the same place. -/
theorem exists_route_eq {path path' : String} (h : path.toList.head? = path'.toList.head?) :
    ∃ way, fs.route path = way ++ Directory.names path ∧
      fs.route path' = way ++ Directory.names path' := by
  unfold route
  rw [h]
  split
  · exact ⟨[], rfl, rfl⟩
  · exact ⟨fs.working, rfl, rfl⟩

/-- A name at the end of the path of a directory is looked for after the names that lead to the
directory. -/
theorem walk_route_pathIn (h : '/' ∉ name.toList) (here : Directory) (above : List Directory) :
    Directory.walk (fs.route (pathIn dir name)) here above =
      Directory.walk (fs.route (if dir = "" then "." else dir) ++ [name]) here above := by
  by_cases hempty : dir = ""
  · have hhead : name.toList.head? ≠ some '/' := fun e => h (List.mem_of_head? e)
    have hdot : fs.route "." = fs.working ++ ["."] := by
      rw [route, if_neg (by decide), Directory.names_of_slash_notMem (by decide)]
    rw [if_pos hempty, hempty, pathIn_empty, hdot, route, if_neg hhead,
      Directory.names_of_slash_notMem h, List.append_assoc]
    exact (Directory.walk_append_cons_self (.inr rfl) (List.cons_ne_nil _ _) _ _ _).symm
  · rw [if_neg hempty]
    obtain ⟨front, hfront, hpath⟩ := exists_toList_pathIn hempty h
    obtain ⟨way, hroute, hway⟩ := fs.exists_route_eq (head?_pathIn hempty h)
    rw [hroute, hway, Directory.names_of_toList_eq h hpath]
    rcases hfront with rfl | hslash
    · -- the name is put behind a slash of its own
      rw [List.append_assoc]
    · -- the slash is there already, and there is an empty name behind it
      have hdir : Directory.names dir = Directory.names front ++ [""] :=
        Directory.names_of_toList_eq (by simp) hslash
      have hskip := Directory.walk_append_cons_self (.inl rfl) (List.cons_ne_nil name [])
        (way ++ Directory.names front) here above
      rw [hdir]
      simpa only [List.append_assoc, List.cons_append, List.nil_append] using hskip.symm

namespace Hosts

theorem null_notMem (hosts : fs.Hosts dir media) : '\x00' ∉ dir.toList := by
  have hnull := (find_eq_ok hosts).1
  by_cases hempty : dir = ""
  · simp [hempty]
  · rwa [if_neg hempty] at hnull

/-- Opening a usable name is looking for it in the directory, whatever is above it. -/
theorem exists_find_pathIn (hosts : fs.Hosts dir media) :
    ∃ above, ∀ name, '/' ∉ name.toList → ¬ IsUnusable dir name → pathIn dir name ≠ "" →
      fs.find (pathIn dir name) = Directory.walk [name] media above := by
  obtain ⟨above, habove⟩ := Directory.exists_walk_append (find_eq_ok hosts).2
  refine ⟨above, fun name hslash husable hne => ?_⟩
  obtain ⟨hname, hlong⟩ := not_or.1 husable
  have hnull := mt (null_mem_pathIn hslash hosts.null_notMem).1 (not_or.1 hname).2
  rw [find, if_neg (by simpa using hnull), if_neg hlong, if_neg hne, walk_route_pathIn hslash,
    habove]

theorem find_pathIn_of_isUnusable (hosts : fs.Hosts dir media) (h : '/' ∉ name.toList)
    (hunusable : IsUnusable dir name) :
    fs.find (pathIn dir name) = .error .nullCharacter ∨
      fs.find (pathIn dir name) = .error .nameTooLong := by
  by_cases hnull : '\x00' ∈ (pathIn dir name).toList
  · exact .inl (by rw [find, if_pos (by simpa using hnull)])
  by_cases hlong : longestPath < (pathIn dir name).utf8ByteSize
  · exact .inr (by rw [find, if_neg (by simpa using hnull), if_pos hlong])
  -- the name is too long for an entry and short enough for the path
  have hsize : Directory.longestName < name.utf8ByteSize :=
    (hunusable.resolve_right hlong).resolve_right
      (mt (null_mem_pathIn h hosts.null_notMem).2 hnull)
  have hne : pathIn dir name ≠ "" := by
    intro e
    obtain ⟨-, rfl⟩ := (pathIn_eq_empty_iff h).1 e
    exact absurd hsize (by decide)
  obtain ⟨above, habove⟩ := Directory.exists_walk_append (find_eq_ok hosts).2
  refine .inr ?_
  rw [find, if_neg (by simpa using hnull), if_neg hlong, if_neg hne, walk_route_pathIn h, habove,
    Directory.walk_singleton_of_longestName_lt hsize]

/-- **What is found under one name** is a file only if it is an entry of the directory itself. -/
theorem find_pathIn_eq_file_iff (hosts : fs.Hosts dir media) (h : '/' ∉ name.toList)
    {bytes : ByteArray} :
    fs.find (pathIn dir name) = .ok (.file bytes) ↔
      media.Holds name bytes ∧ ¬ IsUnusable dir name := by
  obtain ⟨above, hwalk⟩ := hosts.exists_find_pathIn
  constructor
  · intro hfind
    have husable : ¬ IsUnusable dir name := by
      intro hunusable
      rcases hosts.find_pathIn_of_isUnusable h hunusable with hfault | hfault
      · exact absurd (hfault.symm.trans hfind) nofun
      · exact absurd (hfault.symm.trans hfind) nofun
    have hne : pathIn dir name ≠ "" := by
      intro e
      rw [e] at hfind
      exact absurd hfind nofun
    have hnull : '\x00' ∉ name.toList := (not_or.1 (not_or.1 husable).1).2
    rw [hwalk name h husable hne] at hfind
    obtain ⟨⟨hempty, hdot, hup⟩, hsize, hchild⟩ := Directory.walk_singleton_eq_file_iff.1 hfind
    exact ⟨⟨⟨hempty, hdot, hup, h, hnull, hsize⟩, hchild⟩, husable⟩
  · rintro ⟨⟨hname, hchild⟩, husable⟩
    have hne : pathIn dir name ≠ "" := fun e => hname.ne_empty ((pathIn_eq_empty_iff h).1 e).2
    rw [hwalk name h husable hne, Directory.walk_singleton_of_isEntryName hname, hchild]

/-- Opening one name fails for another cause than that it is missing exactly if the name is
unusable. -/
theorem find_pathIn_eq_fault_iff (hosts : fs.Hosts dir media) (h : '/' ∉ name.toList) :
    (∃ fault, fault ≠ .missing ∧ fs.find (pathIn dir name) = .error fault) ↔
      IsUnusable dir name := by
  constructor
  · rintro ⟨fault, hfault, hfind⟩
    refine Classical.byContradiction fun husable => ?_
    by_cases hne : pathIn dir name = ""
    · rw [hne] at hfind
      exact hfault (Except.error.inj hfind).symm
    · have hsize : name.utf8ByteSize ≤ Directory.longestName :=
        Nat.le_of_not_lt (not_or.1 (not_or.1 husable).1).1
      obtain ⟨above, hwalk⟩ := hosts.exists_find_pathIn
      rw [hwalk name h husable hne] at hfind
      exact hfault (Directory.walk_singleton_eq_error hsize hfind)
  · intro hunusable
    rcases hosts.find_pathIn_of_isUnusable h hunusable with hfind | hfind
    · exact ⟨.nullCharacter, nofun, hfind⟩
    · exact ⟨.nameTooLong, nofun, hfind⟩

end Hosts

/-- The file system of a program that is running next to a directory of media. -/
def beside (media : Directory) : FileSystem := ⟨[("media", .directory media)], []⟩

theorem hosts_beside (media : Directory) : (beside media).Hosts "./media" media :=
  rfl

end FileSystem

end StreamRehearsal
