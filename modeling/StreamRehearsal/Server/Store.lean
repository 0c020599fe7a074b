import StreamRehearsal.Scenario.Basic

/-! # The scenario store

Compiled scenarios are kept so that requests about one scenario string share one object.

* A `Store` lists its entries, each with the time of the latest request for it.  `Store.get` finds
  the entry of a scenario string and notes the time, or compiles the string and adds an entry.  If
  there is no room for one more, the entry whose latest request is the longest ago is dropped.
* An object is known by the number of the request that made it, so two objects are the same if
  and only if these numbers are equal.
* `Store.ofCapacity 0` keeps nothing; `Store.keepingSome` has room for one entry at least.
* `Store.keys` are the scenario strings that are kept.  `Store.entriesAfter_of_mem` and
  `Store.entriesAfter_of_notMem` say what a request does to the entries, whether or not its scenario
  string is kept. -/

namespace StreamRehearsal

/-- A compiled scenario as an object with an identity. -/
structure Compiled where
  scenario : Scenario
  /-- The number of the request that it was compiled for. -/
  made : Nat
  deriving DecidableEq, Repr

namespace Store

/-- A compiled scenario that is kept. -/
structure Entry where
  /-- The scenario string. -/
  path : String
  object : Compiled
  /-- The time of the latest request for it. -/
  lastUsed : Nat
  deriving DecidableEq, Repr

/-- The same entry with a request noted in it, if the request is for its scenario string. -/
def Entry.touch (time : Nat) (path : String) (e : Entry) : Entry :=
  if e.path = path then { e with lastUsed := time } else e

@[simp] theorem Entry.path_touch (time : Nat) (path : String) (e : Entry) :
    (e.touch time path).path = e.path := by
  unfold touch
  split <;> rfl

@[simp] theorem Entry.object_touch (time : Nat) (path : String) (e : Entry) :
    (e.touch time path).object = e.object := by
  unfold touch
  split <;> rfl

/-- The entries without the one whose latest request is the longest ago. -/
def dropOldest (entries : List Entry) : List Entry :=
  match entries.minOn? Entry.lastUsed with
  | some oldest => entries.filter fun e => e.path ≠ oldest.path
  | none => entries

theorem mem_of_mem_dropOldest {entries : List Entry} {e : Entry} (h : e ∈ dropOldest entries) :
    e ∈ entries := by
  unfold dropOldest at h
  split at h
  · exact (List.mem_filter.1 h).1
  · exact h

/-- The entries with room for one more. -/
def makeRoom (capacity : Nat) (entries : List Entry) : List Entry :=
  if capacity ≤ entries.length then dropOldest entries else entries

theorem mem_of_mem_makeRoom {capacity : Nat} {entries : List Entry} {e : Entry}
    (h : e ∈ makeRoom capacity entries) : e ∈ entries := by
  unfold makeRoom at h
  split at h
  · exact mem_of_mem_dropOldest h
  · exact h

/-- A request for a scenario string. -/
structure Call where
  time : Nat
  path : String
  deriving DecidableEq, Repr

end Store

/-- The compiled scenarios that are kept. -/
structure Store where
  capacity : Nat
  /-- The number of requests so far. -/
  requests : Nat
  entries : List Store.Entry
  deriving DecidableEq, Repr

namespace Store

/-- The empty store with room for this many entries. -/
def ofCapacity (capacity : Nat) : Store := ⟨capacity, 0, []⟩

/-- The empty store with room for this many entries, and for one at least. -/
def keepingSome (capacity : Nat) : Store := ofCapacity (max capacity 1)

/-- The object that is kept for a scenario string. -/
def find? (s : Store) (path : String) : Option Compiled :=
  (s.entries.find? fun e => e.path == path).map Entry.object

/-- The object for a scenario string: the kept one, or a new one. -/
def obtain (s : Store) (path : String) : Compiled :=
  (s.find? path).getD ⟨Scenario.compile path, s.requests⟩

/-- The entries after a request at a time. -/
def entriesAfter (s : Store) (time : Nat) (path : String) : List Entry :=
  match s.find? path with
  | some _ => s.entries.map (Entry.touch time path)
  | none =>
    if s.capacity = 0 then s.entries
    else makeRoom s.capacity s.entries ++ [⟨path, s.obtain path, time⟩]

/-- The object for a scenario string, and the store after the request for it at a time. -/
def get (s : Store) (time : Nat) (path : String) : Compiled × Store :=
  (s.obtain path, ⟨s.capacity, s.requests + 1, s.entriesAfter time path⟩)

/-- The objects for a list of requests, one after the other. -/
def serve (s : Store) : List Call → List Compiled × Store
  | [] => ([], s)
  | c :: cs =>
    let (object, next) := s.get c.time c.path
    let (objects, last) := next.serve cs
    (object :: objects, last)

/-- The objects for a list of scenario strings, each requested later than the one before. -/
def getAll (s : Store) (paths : List String) : List Compiled × Store :=
  s.serve (paths.mapIdx fun time path => ⟨time, path⟩)

/-- The scenario strings that are kept. -/
def keys (s : Store) : List String := s.entries.map Entry.path

@[simp] theorem keys_ofCapacity (capacity : Nat) : (ofCapacity capacity).keys = [] := rfl

theorem find?_eq_none_iff {s : Store} {path : String} : s.find? path = none ↔ path ∉ s.keys := by
  simp [find?, keys]

theorem exists_entry_of_mem {s : Store} {path : String} (h : path ∈ s.keys) :
    ∃ e ∈ s.entries, e.path = path ∧ s.find? path = some e.object := by
  cases hf : s.entries.find? fun e => e.path == path with
  | none => exact absurd h (find?_eq_none_iff.1 (by simp [find?, hf]))
  | some e =>
    exact ⟨e, List.mem_of_find?_eq_some hf, by simpa using List.find?_some hf, by simp [find?, hf]⟩

theorem obtain_of_notMem {s : Store} {path : String} (h : path ∉ s.keys) :
    s.obtain path = ⟨Scenario.compile path, s.requests⟩ := by
  simp [obtain, find?_eq_none_iff.2 h]

theorem entriesAfter_of_mem {s : Store} {path : String} (h : path ∈ s.keys) (time : Nat) :
    s.entriesAfter time path = s.entries.map (Entry.touch time path) := by
  obtain ⟨e, -, -, he⟩ := exists_entry_of_mem h
  simp [entriesAfter, he]

theorem entriesAfter_of_notMem {s : Store} {path : String} (hc : s.capacity ≠ 0)
    (h : path ∉ s.keys) (time : Nat) :
    s.entriesAfter time path =
      makeRoom s.capacity s.entries ++ [⟨path, s.obtain path, time⟩] := by
  simp [entriesAfter, find?_eq_none_iff.2 h, hc]

@[simp] theorem fst_get (s : Store) (time : Nat) (path : String) :
    (s.get time path).1 = s.obtain path := rfl

@[simp] theorem capacity_get (s : Store) (time : Nat) (path : String) :
    (s.get time path).2.capacity = s.capacity := rfl

@[simp] theorem requests_get (s : Store) (time : Nat) (path : String) :
    (s.get time path).2.requests = s.requests + 1 := rfl

@[simp] theorem entries_get (s : Store) (time : Nat) (path : String) :
    (s.get time path).2.entries = s.entriesAfter time path := rfl

/-- An entry after a request holds an object that was kept for its scenario string before, or is the
new one for a scenario string that was not kept. -/
theorem of_mem_entriesAfter {s : Store} {time : Nat} {path : String} {e : Entry}
    (h : e ∈ s.entriesAfter time path) :
    (∃ old ∈ s.entries, old.path = e.path ∧ old.object = e.object) ∨
      path ∉ s.keys ∧ e = ⟨path, s.obtain path, time⟩ := by
  by_cases hk : path ∈ s.keys
  · rw [entriesAfter_of_mem hk] at h
    obtain ⟨old, hold, rfl⟩ := List.mem_map.1 h
    exact Or.inl ⟨old, hold, by simp, by simp⟩
  by_cases hc : s.capacity = 0
  · simp only [entriesAfter, find?_eq_none_iff.2 hk, hc, if_true] at h
    exact Or.inl ⟨e, h, rfl, rfl⟩
  · rw [entriesAfter_of_notMem hc hk, List.mem_append, List.mem_singleton] at h
    exact h.imp (fun h => ⟨e, mem_of_mem_makeRoom h, rfl, rfl⟩) fun h => ⟨hk, h⟩

end Store

end StreamRehearsal
