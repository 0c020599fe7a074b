import StreamRehearsal.Proofs.Store.Recency

/-! # Which object a request gets

A request for a scenario string that is kept is a hit and gets the object that is kept; any other is
a miss and makes an object.

* `Store.LatestMiss` is the latest miss for a scenario string in a list of requests.  What an entry
  holds was made by it (`exists_latestMiss`), as every step either leaves the objects alone or adds
  the one that it makes.
* `fst_serve_concat` and `made_lt_of_mem_serve` are about the objects that were given out: the number
  of each is the number of a request.
* `leastRecentlyUsed` puts together what is kept, what is a hit, and who gets which object. -/

namespace StreamRehearsal.Store

/-! ### Given out -/

theorem fst_serve_concat (s : Store) (calls : List Call) (c : Call) :
    (s.serve (calls ++ [c])).1 = (s.serve calls).1 ++ [(s.after calls).obtain c.path] := by
  induction calls generalizing s with
  | nil => rfl
  | cons d calls ih => exact congrArg (s.obtain d.path :: ·) (ih (s.get d.time d.path).2)

theorem requests_after (s : Store) (calls : List Call) :
    (s.after calls).requests = s.requests + calls.length := by
  induction calls using List.reverseRecOn with
  | nil => rfl
  | append_singleton calls c ih =>
      rw [after_concat, requests_get, ih, List.length_append, List.length_singleton, Nat.add_assoc]

/-! ### Made -/

/-- The request between `earlier` and `since` is the latest one for a scenario string that was not
kept at the time. -/
structure LatestMiss (s : Store) (calls : List Call) (path : String) (earlier : List Call)
    (call : Call) (since : List Call) : Prop where
  calls_eq : calls = earlier ++ call :: since
  path_eq : call.path = path
  miss : path ∉ (s.after earlier).keys
  hits : ∀ more d rest, since = more ++ d :: rest → d.path = path →
    path ∈ (s.after (earlier ++ call :: more)).keys

theorem LatestMiss.concat {s : Store} {calls : List Call} {path : String} {earlier : List Call}
    {call : Call} {since : List Call} (h : LatestMiss s calls path earlier call since)
    (hk : path ∈ (s.after calls).keys) (c : Call) :
    LatestMiss s (calls ++ [c]) path earlier call (since ++ [c]) where
  calls_eq := by simp [h.calls_eq]
  path_eq := h.path_eq
  miss := h.miss
  hits := by
    intro more d rest e hd
    obtain rfl | ⟨front, z, rfl⟩ := rest.eq_nil_or_concat
    · obtain ⟨rfl, -⟩ := List.append_inj' e rfl
      exact h.calls_eq ▸ hk
    · rw [List.concat_eq_append, ← List.cons_append, ← List.append_assoc] at e
      exact h.hits more d front (List.append_inj' e rfl).1 hd

/-- What an entry holds was made by the latest miss for its scenario string. -/
theorem exists_latestMiss {k : Nat} {calls : List Call} {e : Entry}
    (he : e ∈ ((ofCapacity k).after calls).entries) :
    ∃ earlier call since, LatestMiss (ofCapacity k) calls e.path earlier call since ∧
      e.object = ((ofCapacity k).after earlier).obtain e.path := by
  induction calls using List.reverseRecOn generalizing e with
  | nil => exact absurd he List.not_mem_nil
  | append_singleton calls c ih =>
      rw [after_concat, entries_get] at he
      obtain ⟨old, hold, hpath, hobject⟩ | ⟨hmiss, rfl⟩ := of_mem_entriesAfter he
      · obtain ⟨earlier, call, since, hlatest, hmade⟩ := ih hold
        rw [hpath] at hlatest hmade
        have hk : e.path ∈ ((ofCapacity k).after calls).keys :=
          List.mem_map.2 ⟨old, hold, hpath⟩
        exact ⟨earlier, call, since ++ [c], hlatest.concat hk c, hobject ▸ hmade⟩
      · refine ⟨calls, c, [], ⟨rfl, rfl, hmiss, ?_⟩, rfl⟩
        intro more d rest e
        exact absurd e.symm (by simp)

theorem obtain_eq_of_notMem {k : Nat} {calls : List Call} {path : String}
    (h : path ∉ ((ofCapacity k).after calls).keys) :
    ((ofCapacity k).after calls).obtain path = ⟨Scenario.compile path, calls.length⟩ := by
  rw [obtain_of_notMem h, requests_after, ofCapacity, Nat.zero_add]

theorem exists_latestMiss_of_mem {k : Nat} {calls : List Call} {path : String}
    (h : path ∈ ((ofCapacity k).after calls).keys) :
    ∃ earlier call since, LatestMiss (ofCapacity k) calls path earlier call since ∧
      ((ofCapacity k).after calls).obtain path = ((ofCapacity k).after earlier).obtain path := by
  obtain ⟨e, he, rfl, hfind⟩ := exists_entry_of_mem h
  obtain ⟨earlier, call, since, hlatest, hmade⟩ := exists_latestMiss he
  exact ⟨earlier, call, since, hlatest, by rw [← hmade, obtain, hfind, Option.getD_some]⟩

/-- An object that was given out was made by one of the requests so far. -/
theorem made_lt_of_mem_serve {k : Nat} {calls : List Call} {o : Compiled}
    (h : o ∈ ((ofCapacity k).serve calls).1) : o.made < calls.length := by
  induction calls using List.reverseRecOn with
  | nil => exact absurd h List.not_mem_nil
  | append_singleton calls c ih =>
      rw [fst_serve_concat, List.mem_append, List.mem_singleton] at h
      rw [List.length_append, List.length_singleton]
      rcases h with h | rfl
      · exact Nat.lt_succ_of_lt (ih h)
      by_cases hk : c.path ∈ ((ofCapacity k).after calls).keys
      · obtain ⟨earlier, call, since, hlatest, e⟩ := exists_latestMiss_of_mem hk
        have hlen : calls.length = earlier.length + (since.length + 1) := by
          rw [hlatest.calls_eq, List.length_append, List.length_cons]
        rw [e, obtain_eq_of_notMem hlatest.miss]
        dsimp only
        omega
      · rw [obtain_eq_of_notMem hk]
        exact Nat.lt_succ_self _

/-! ### Hits -/

/-- A request is a hit if and only if its scenario string was requested before, and fewer others
than there is room for were requested since. -/
theorem mem_keys_after_iff {k : Nat} (hk : 0 < k) {calls : List Call}
    (h : calls.Pairwise fun c d => c.time < d.time) {path : String} :
    path ∈ ((ofCapacity k).after calls).keys ↔
      ∃ earlier call since, calls = earlier ++ call :: since ∧ call.path = path ∧
        (∀ d ∈ since, d.path ≠ path) ∧ (since.map Call.path).dedup.length < k := by
  rw [(perm_keys_after hk h).mem_iff, mem_take_recent_iff]
  constructor
  · rintro ⟨xs, ys, e, hys, hlt⟩
    obtain ⟨earlier, tail, rfl, rfl, htail⟩ := List.map_eq_append_iff.1 e
    obtain ⟨call, since, rfl, rfl, rfl⟩ := List.map_eq_cons_iff.1 htail
    exact ⟨earlier, call, since, rfl, rfl, by simpa using hys, hlt⟩
  · rintro ⟨earlier, call, since, rfl, rfl, hsince, hlt⟩
    exact ⟨earlier.map Call.path, since.map Call.path, by simp, by simpa using hsince, hlt⟩

/-- **The store is exactly least-recently-used.**  After requests at increasing times it keeps the
distinct scenario strings that were requested last, as many as there is room for.  The next request
is a hit if and only if its scenario string was requested before and fewer others than there is room
for were requested since; a hit gets the very object that was made by the latest miss for its
scenario string, and a miss gets a new one. -/
theorem leastRecentlyUsed (capacity : Nat) (calls : List Call)
    (h : calls.Pairwise fun c d => c.time < d.time) :
    let k := max capacity 1
    let empty := keepingSome capacity
    let s := empty.after calls
    s.keys.Perm ((calls.map Call.path).dedup.reverse.take k) ∧
      s.keys.length = min k (calls.map Call.path).dedup.length ∧
      ∀ c : Call,
        (c.path ∈ s.keys ↔
          ∃ earlier call since, calls = earlier ++ call :: since ∧ call.path = c.path ∧
            (∀ d ∈ since, d.path ≠ c.path) ∧ (since.map Call.path).dedup.length < k) ∧
        (c.path ∈ s.keys →
          ∃ earlier call since, LatestMiss empty calls c.path earlier call since ∧
            (s.get c.time c.path).1 = ((empty.after earlier).get call.time call.path).1) ∧
        (c.path ∉ s.keys →
          (s.get c.time c.path).1 = ⟨Scenario.compile c.path, calls.length⟩ ∧
            ∀ o ∈ (empty.serve calls).1, o.made ≠ (s.get c.time c.path).1.made) := by
  intro k empty s
  have hk : 0 < k := Nat.lt_of_lt_of_le Nat.zero_lt_one (Nat.le_max_right capacity 1)
  have hperm := perm_keys_after hk h
  refine ⟨hperm, ?_, fun c => ⟨mem_keys_after_iff hk h, fun hhit => ?_, fun hmiss => ?_⟩⟩
  · have hlength := hperm.length_eq
    rwa [List.length_take, List.length_reverse] at hlength
  · obtain ⟨earlier, call, since, hlatest, e⟩ := exists_latestMiss_of_mem hhit
    exact ⟨earlier, call, since, hlatest, by rw [fst_get, fst_get, hlatest.path_eq]; exact e⟩
  · have e : (s.get c.time c.path).1 = ⟨Scenario.compile c.path, calls.length⟩ :=
      obtain_eq_of_notMem hmiss
    refine ⟨e, fun o ho => ?_⟩
    rw [e]
    exact Nat.ne_of_lt (made_lt_of_mem_serve ho)

/-- With room for two, the string that was requested first outlives the second one by a hit. -/
theorem leastRecentlyUsed_of_four :
    let calls : List Call := [⟨1, "/s1"⟩, ⟨2, "/s2"⟩, ⟨5, "/s1"⟩, ⟨9, "/s3"⟩]
    let s := (keepingSome 2).after calls
    (calls.Pairwise fun c d => c.time < d.time) ∧ s.keys.Perm ["/s3", "/s1"] ∧
      (s.get 10 "/s2").1.made = 4 := by
  intro calls s
  have h : calls.Pairwise fun c d => c.time < d.time := by decide
  obtain ⟨hkeys, -, hnext⟩ := leastRecentlyUsed 2 calls h
  have hperm : s.keys.Perm ["/s3", "/s1"] := hkeys.trans (by decide)
  have hmiss : "/s2" ∉ s.keys := fun hm => absurd (hperm.mem_iff.1 hm) (by decide)
  exact ⟨h, hperm, congrArg Compiled.made ((hnext ⟨10, "/s2"⟩).2.2 hmiss).1⟩

end StreamRehearsal.Store
