import Mathlib.Data.List.Dedup
import Mathlib.Data.List.Induction
import StreamRehearsal.Server.Store

/-! # Which scenario strings are kept

A store knows of the past only one time for each of its entries.  What it keeps is nevertheless
decided by the whole list of requests: the scenario strings that were requested last.

* `Store.latest` lists, for a list of requests, the latest one for each scenario string, the latest
  of all in front.  One more request goes to the front (`latest_concat`), and the scenario strings
  are the distinct ones in the order of their last mention (`map_path_latest`).
* `Store.Mirrors s l` says that the entries of a store are the requests of a list, in any order.
  `Mirrors.get` is what one request does to such a list: it goes to the front and what is past the
  capacity falls off.  The entry that is dropped is the last of the list because the list is in the
  order of time (`perm_dropOldest`).
* `mirrors_after` is the outcome for a whole run, and `mem_take_recent_iff` reads it from the side
  of one scenario string: it is kept as long as fewer others than the capacity were requested
  since. -/

namespace StreamRehearsal.Store

/-! ### Distinct elements by their last mention -/

section

variable {α : Type} [DecidableEq α]

theorem dedup_concat (l : List α) (a : α) :
    (l ++ [a]).dedup = l.dedup.filter (· ≠ a) ++ [a] := by
  induction l with
  | nil => simp
  | cons b l ih =>
      by_cases hb : b ∈ l
      · rw [List.cons_append, List.dedup_cons_of_mem (List.mem_append_left _ hb), ih,
          List.dedup_cons_of_mem hb]
      by_cases hba : b = a
      · subst hba
        rw [List.cons_append, List.dedup_cons_of_mem (by simp), ih,
          List.dedup_cons_of_notMem hb, List.filter_cons_of_neg (by simp)]
      · have hnot : b ∉ l ++ [a] := by simp [hb, hba]
        rw [List.cons_append, List.dedup_cons_of_notMem hnot, ih, List.dedup_cons_of_notMem hb,
          List.filter_cons_of_pos (by simpa using hba), List.cons_append]

/-- Of the distinct elements, the ones mentioned after the last mention of `a` come after it. -/
theorem exists_dedup_append_cons (xs : List α) {a : α} {ys : List α} (h : a ∉ ys) :
    ∃ zs, (xs ++ a :: ys).dedup = zs ++ a :: ys.dedup := by
  rw [List.dedup_append, List.dedup_cons_of_notMem h]
  obtain ⟨zs, hzs⟩ := List.suffix_union_right xs (a :: ys.dedup)
  exact ⟨zs, hzs.symm⟩

/-- An element is among the last `k` distinct ones if and only if fewer than `k` others are
mentioned after it. -/
theorem mem_take_recent_iff {l : List α} {a : α} {k : Nat} :
    a ∈ l.dedup.reverse.take k ↔
      ∃ xs ys, l = xs ++ a :: ys ∧ a ∉ ys ∧ ys.dedup.length < k := by
  have hsplit : ∀ xs ys, a ∉ ys →
      (a ∈ (xs ++ a :: ys).dedup.reverse.take k ↔ ys.dedup.length < k) := by
    intro xs ys hys
    obtain ⟨zs, hzs⟩ := exists_dedup_append_cons xs hys
    have hnot : a ∉ ys.dedup.reverse.take k := fun hm => hys (by simpa using List.mem_of_mem_take hm)
    rw [hzs, List.reverse_append, List.reverse_cons, List.append_assoc, List.take_append,
      List.mem_append, List.length_reverse]
    constructor
    · intro hm
      by_contra hle
      rw [Nat.sub_eq_zero_of_le (Nat.le_of_not_lt hle), List.take_zero] at hm
      exact hm.elim hnot List.not_mem_nil
    · intro hlt
      obtain ⟨j, hj⟩ : ∃ j, k - ys.dedup.length = j + 1 := ⟨k - ys.dedup.length - 1, by omega⟩
      exact Or.inr (by simp [hj])
  constructor
  · intro hm
    have hl : a ∈ l := by simpa using List.mem_of_mem_take hm
    obtain ⟨ys, xs, hrev, hys⟩ := List.eq_append_cons_of_mem (List.mem_reverse.2 hl)
    have e : l = xs.reverse ++ a :: ys.reverse := by simpa using congrArg List.reverse hrev
    have hys : a ∉ ys.reverse := by simpa using hys
    exact ⟨xs.reverse, ys.reverse, e, hys, (hsplit _ _ hys).1 (e ▸ hm)⟩
  · rintro ⟨xs, ys, rfl, hys, hlt⟩
    exact (hsplit xs ys hys).2 hlt

end

/-! ### The latest requests -/

/-- The requests for other scenario strings. -/
def others (path : String) (l : List Call) : List Call := l.filter fun d => d.path ≠ path

@[simp] theorem others_nil (path : String) : others path [] = [] := rfl

theorem others_cons_of_eq {path : String} {c : Call} (h : c.path = path) (l : List Call) :
    others path (c :: l) = others path l :=
  List.filter_cons_of_neg (by simpa using h)

theorem others_cons_of_ne {path : String} {c : Call} (h : c.path ≠ path) (l : List Call) :
    others path (c :: l) = c :: others path l :=
  List.filter_cons_of_pos (by simpa using h)

theorem others_eq_self {path : String} {l : List Call} (h : ∀ d ∈ l, d.path ≠ path) :
    others path l = l :=
  List.filter_eq_self.2 fun d hd => by simpa using h d hd

theorem mem_others {path : String} {l : List Call} {d : Call} :
    d ∈ others path l ↔ d ∈ l ∧ d.path ≠ path := by
  simp [others]

/-- The latest request for each scenario string, the latest of all in front. -/
def latest (calls : List Call) : List Call :=
  calls.foldl (fun kept c => c :: others c.path kept) []

@[simp] theorem latest_nil : latest [] = [] := rfl

theorem latest_concat (calls : List Call) (c : Call) :
    latest (calls ++ [c]) = c :: others c.path (latest calls) := by
  simp [latest]

theorem mem_of_mem_latest {calls : List Call} {d : Call} (h : d ∈ latest calls) : d ∈ calls := by
  induction calls using List.reverseRecOn with
  | nil => exact absurd h List.not_mem_nil
  | append_singleton calls c ih =>
      rw [latest_concat, List.mem_cons] at h
      rcases h with rfl | h
      · simp
      · exact List.mem_append_left _ (ih (mem_others.1 h).1)

/-- The scenario strings of the latest requests are the distinct ones, by their last mention. -/
theorem map_path_latest (calls : List Call) :
    (latest calls).map Call.path = (calls.map Call.path).dedup.reverse := by
  induction calls using List.reverseRecOn with
  | nil => rfl
  | append_singleton calls c ih =>
      have hothers : (others c.path (latest calls)).map Call.path =
          ((latest calls).map Call.path).filter (· ≠ c.path) := by
        rw [List.filter_map]
        rfl
      rw [latest_concat, List.map_append, List.map_singleton, dedup_concat, List.map_cons,
        List.reverse_append, List.reverse_singleton, ← List.filter_reverse, ← ih, hothers]
      rfl

/-- Requests in the order of time, the latest in front, each for a scenario string of its own. -/
def LatestFirst (l : List Call) : Prop :=
  l.Pairwise fun c d => d.time < c.time ∧ d.path ≠ c.path

theorem latestFirst_latest {calls : List Call} (h : calls.Pairwise fun c d => c.time < d.time) :
    LatestFirst (latest calls) := by
  induction calls using List.reverseRecOn with
  | nil => exact List.Pairwise.nil
  | append_singleton calls c ih =>
      obtain ⟨hcalls, -, hlast⟩ := List.pairwise_append.1 h
      rw [latest_concat]
      refine List.pairwise_cons.2 ⟨fun d hd => ?_, (ih hcalls).filter _⟩
      obtain ⟨hd, hne⟩ := mem_others.1 hd
      exact ⟨hlast d (mem_of_mem_latest hd) c (by simp), hne⟩

/-- Only the first `k + 1` of such requests matter for the first `k` that are for other scenario
strings. -/
theorem LatestFirst.take_others {l : List Call} (h : LatestFirst l) (path : String) (k : Nat) :
    (others path l).take k = (others path (l.take (k + 1))).take k := by
  induction l generalizing k with
  | nil => rfl
  | cons c l ih =>
      obtain ⟨hc, hl⟩ := List.pairwise_cons.1 h
      by_cases hp : c.path = path
      · -- no other request of the list is for this scenario string
        have hall : ∀ d ∈ l, d.path ≠ path := fun d hd => hp ▸ (hc d hd).2
        have htake : ∀ d ∈ l.take k, d.path ≠ path := fun d hd => hall d (List.mem_of_mem_take hd)
        rw [List.take_succ_cons, others_cons_of_eq hp, others_cons_of_eq hp, others_eq_self hall,
          others_eq_self htake, List.take_take, Nat.min_self]
      · rw [List.take_succ_cons, others_cons_of_ne hp, others_cons_of_ne hp]
        cases k with
        | zero => rfl
        | succ k => rw [List.take_succ_cons, List.take_succ_cons, ih hl k]

/-! ### The entries mirror the latest requests -/

/-- The request that an entry remembers. -/
def Entry.call (e : Entry) : Call := ⟨e.lastUsed, e.path⟩

/-- The entries of the store remember the requests of the list, in any order. -/
def Mirrors (s : Store) (l : List Call) : Prop := (s.entries.map Entry.call).Perm l

theorem Mirrors.perm_keys {s : Store} {l : List Call} (h : Mirrors s l) :
    s.keys.Perm (l.map Call.path) := by
  have e : s.keys = (s.entries.map Entry.call).map Call.path := by simp [keys, Entry.call]
  exact e ▸ h.map Call.path

/-- A request put in the place of an older one for the same scenario string. -/
def Call.renew (c d : Call) : Call := if d.path = c.path then c else d

theorem Entry.call_touch (c : Call) (e : Entry) :
    (e.touch c.time c.path).call = c.renew e.call := by
  unfold Entry.touch Call.renew Entry.call
  split <;> simp_all

/-- Renewing a request amounts to bringing it to the front. -/
theorem LatestFirst.perm_map_renew {l : List Call} (h : LatestFirst l) {c : Call}
    (hc : c.path ∈ l.map Call.path) : (l.map c.renew).Perm (c :: others c.path l) := by
  induction l with
  | nil => exact absurd hc List.not_mem_nil
  | cons d l ih =>
      obtain ⟨hd, hl⟩ := List.pairwise_cons.1 h
      by_cases hp : d.path = c.path
      · have hall : ∀ x ∈ l, x.path ≠ c.path := fun x hx => hp ▸ (hd x hx).2
        have hmap : l.map c.renew = l :=
          (List.map_congr_left fun x hx => if_neg (hall x hx)).trans (List.map_id l)
        rw [List.map_cons, hmap, others_cons_of_eq hp, others_eq_self hall, Call.renew, if_pos hp]
      · have hin : c.path ∈ l.map Call.path := by
          rw [List.map_cons, List.mem_cons] at hc
          exact hc.resolve_left fun e => hp e.symm
        rw [List.map_cons, others_cons_of_ne hp, Call.renew, if_neg hp]
        exact ((ih hl hin).cons d).trans (List.Perm.swap c d _)

/-- The entry that is dropped remembers the last request of the list. -/
theorem perm_dropOldest {entries : List Entry} {l : List Call} {z : Call}
    (hperm : (entries.map Entry.call).Perm (l ++ [z])) (hl : LatestFirst (l ++ [z])) :
    ((dropOldest entries).map Entry.call).Perm l := by
  obtain ⟨-, -, hz⟩ := List.pairwise_append.1 hl
  have hbefore : ∀ d ∈ l, z.time < d.time ∧ z.path ≠ d.path := fun d hd => hz d hd z (by simp)
  obtain ⟨last, hlast, rfl⟩ : ∃ e ∈ entries, e.call = z :=
    List.mem_map.1 (hperm.mem_iff.2 (by simp))
  obtain ⟨oldest, hmin⟩ := Option.isSome_iff_exists.1
    (List.isSome_minOn?_of_mem (f := Entry.lastUsed) hlast)
  have hle : oldest.lastUsed ≤ last.lastUsed := by
    have := List.apply_get_minOn?_le_of_mem (f := Entry.lastUsed) hlast
    simpa only [hmin, Option.get_some] using this
  have hpath : oldest.path = last.path := by
    have hin : oldest.call ∈ l ++ [last.call] :=
      hperm.mem_iff.1 (List.mem_map_of_mem (List.minOn?_mem hmin))
    rw [List.mem_append, List.mem_singleton] at hin
    rcases hin with hin | e
    · exact absurd (hbefore _ hin).1 (Nat.not_lt.2 hle)
    · exact congrArg Call.path e
  have hdrop : (dropOldest entries).map Entry.call =
      others last.path (entries.map Entry.call) := by
    unfold dropOldest others
    rw [hmin, List.filter_map]
    simp only [hpath]
    rfl
  have hothers : others last.path (l ++ [last.call]) = l := by
    rw [others, List.filter_append, List.filter_eq_self.2, List.filter_cons_of_neg]
    · simp
    · simp [Entry.call]
    · intro d hd
      simpa using fun e => (hbefore d hd).2 e.symm
  rw [hdrop]
  exact hothers ▸ hperm.filter _

/-! ### One request -/

theorem Mirrors.makeRoom {s : Store} {l : List Call} (h : Mirrors s l) (hl : LatestFirst l)
    (hc : 0 < s.capacity) (hlen : l.length ≤ s.capacity) :
    ((makeRoom s.capacity s.entries).map Entry.call).Perm (l.take (s.capacity - 1)) := by
  have hlength : s.entries.length = l.length := by simpa using h.length_eq
  unfold Store.makeRoom
  split
  next hfull =>
    obtain rfl | ⟨front, z, rfl⟩ := l.eq_nil_or_concat
    · rw [List.length_nil] at hlength
      omega
    have hfront : front.length = s.capacity - 1 := by
      rw [List.length_concat] at hlength hlen
      omega
    rw [List.concat_eq_append] at h hl ⊢
    rw [List.take_append_of_le_length (Nat.le_of_eq hfront.symm),
      List.take_of_length_le (Nat.le_of_eq hfront)]
    exact perm_dropOldest h hl
  next hroom =>
    rw [List.take_of_length_le (by omega)]
    exact h

/-- **What one request does**: it goes to the front of the requests that the entries remember, and
what is past the capacity then is forgotten. -/
theorem Mirrors.get {s : Store} {l : List Call} (h : Mirrors s l) (hl : LatestFirst l)
    (hc : 0 < s.capacity) (hlen : l.length ≤ s.capacity) (c : Call) :
    Mirrors (s.get c.time c.path).2 ((c :: others c.path l).take s.capacity) := by
  unfold Mirrors
  rw [entries_get]
  by_cases hk : c.path ∈ s.keys
  · have hin : c.path ∈ l.map Call.path := h.perm_keys.mem_iff.1 hk
    have hperm := hl.perm_map_renew hin
    have hfits : (c :: others c.path l).length ≤ s.capacity := by
      rwa [← hperm.length_eq, List.length_map]
    have e : (s.entries.map (Entry.touch c.time c.path)).map Entry.call =
        (s.entries.map Entry.call).map c.renew := by
      simp [Entry.call_touch]
    rw [entriesAfter_of_mem hk, List.take_of_length_le hfits, e]
    exact (h.map c.renew).trans hperm
  · have hall : ∀ d ∈ l, d.path ≠ c.path := fun d hd e =>
      hk (h.perm_keys.mem_iff.2 (List.mem_map.2 ⟨d, hd, e⟩))
    rw [entriesAfter_of_notMem (Nat.ne_of_gt hc) hk, List.map_append, others_eq_self hall,
      List.take_cons hc]
    exact (List.perm_append_singleton _ _).trans ((h.makeRoom hl hc hlen).cons c)

/-! ### A whole run -/

/-- The store after a list of requests. -/
def after (s : Store) (calls : List Call) : Store := (s.serve calls).2

@[simp] theorem after_nil (s : Store) : s.after [] = s := rfl

theorem after_concat (s : Store) (calls : List Call) (c : Call) :
    s.after (calls ++ [c]) = ((s.after calls).get c.time c.path).2 := by
  induction calls generalizing s with
  | nil => rfl
  | cons d calls ih => exact ih (s.get d.time d.path).2

@[simp] theorem capacity_after (s : Store) (calls : List Call) :
    (s.after calls).capacity = s.capacity := by
  induction calls using List.reverseRecOn with
  | nil => rfl
  | append_singleton calls c ih => rw [after_concat, capacity_get, ih]

/-- After requests at increasing times, the entries remember the latest of them, as many as there
is room for. -/
theorem mirrors_after {k : Nat} (hk : 0 < k) {calls : List Call}
    (h : calls.Pairwise fun c d => c.time < d.time) :
    Mirrors ((ofCapacity k).after calls) ((latest calls).take k) := by
  induction calls using List.reverseRecOn with
  | nil => simp [Mirrors, ofCapacity]
  | append_singleton calls c ih =>
      have hcalls := (List.pairwise_append.1 h).1
      have hcap : ((ofCapacity k).after calls).capacity = k := capacity_after _ _
      have hlatest := latestFirst_latest hcalls
      have hstep := (ih hcalls).get (hlatest.sublist (List.take_sublist k _)) (hcap.symm ▸ hk)
        (by rw [hcap]; exact List.length_take_le k _) c
      obtain ⟨j, rfl⟩ := Nat.exists_eq_succ_of_ne_zero (Nat.ne_of_gt hk)
      rw [hcap, List.take_succ_cons, ← hlatest.take_others] at hstep
      rw [after_concat, latest_concat, List.take_succ_cons]
      exact hstep

/-- The scenario strings that are kept are the distinct ones that were requested last. -/
theorem perm_keys_after {k : Nat} (hk : 0 < k) {calls : List Call}
    (h : calls.Pairwise fun c d => c.time < d.time) :
    ((ofCapacity k).after calls).keys.Perm ((calls.map Call.path).dedup.reverse.take k) := by
  have hperm := (mirrors_after hk h).perm_keys
  rwa [List.map_take, map_path_latest] at hperm

end StreamRehearsal.Store
