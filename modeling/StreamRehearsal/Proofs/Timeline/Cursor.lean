import StreamRehearsal.Proofs.Schedule

/-! # The cursor and the list of actions

How the list of actions grows while the cursor moves, for operations of any magnitude.

* One more operation is recorded at the number of segments taken up so far, clipped
  (`ofOperations_concat`); statements about all timelines go by induction on the operations from
  the last one back.
* `indices_record` says all that one operation can do to the list of indices: leave it as it is, or
  add the segment that the operation leaves a mark on.  What a run leaves behind is then the set of
  all marks, clipped (`mem_indices_ofOperations`).
* `Trail` is the invariant that ties the list to the cursor.  While the cursor is not at its limit,
  only the action listed last can be about the cursor's segment; a startup, which acts behind the
  cursor, moves it on at once, so it cannot come between. -/

namespace StreamRehearsal.Timeline

open Schedule

/-! ### One more operation -/

theorem foldl_advance (cursor : UInt64) (ops : List Operation) :
    ops.foldl advance cursor = clip (cursor.toNat + slotSum ops) := by
  induction ops generalizing cursor with
  | nil => simp
  | cons op ops ih =>
      rw [List.foldl_cons, ih, slotSum_cons, advance, toNat_clip, clip_min_add, Nat.add_assoc]

theorem ofOperations_append (xs ys : List Operation) :
    ofOperations (xs ++ ys) = (ofOperations xs).extend (clip (slotSum xs)) ys := by
  unfold ofOperations
  rw [extend_append, foldl_advance, UInt64.toNat_zero, Nat.zero_add]

theorem ofOperations_concat (xs : List Operation) (op : Operation) :
    ofOperations (xs ++ [op]) = (ofOperations xs).record (clip (slotSum xs)) op :=
  ofOperations_append xs [op]

theorem advance_clip (n : Nat) (op : Operation) : advance (clip n) op = clip (n + op.slots) := by
  rw [advance, toNat_clip, clip_min_add]

/-! ### The indices after one operation -/

/-- The segments that the actions are about, in the order of first mention. -/
def indices (t : Timeline) : List UInt64 := t.actions.map SegmentAction.index

@[simp] theorem indices_empty : empty.indices = [] := rfl

theorem indices_holdBack (index secs : UInt64) (actions : List SegmentAction) :
    (holdBack index secs actions).map SegmentAction.index =
      if index ∈ actions.map SegmentAction.index then actions.map SegmentAction.index
      else actions.map SegmentAction.index ++ [index] := by
  induction actions with
  | nil => rfl
  | cons a rest ih =>
      by_cases h : a.index = index
      · simp [holdBack, h]
      · have h' : ¬ index = a.index := fun e => h e.symm
        simp only [holdBack, if_neg h, List.map_cons, ih, List.mem_cons, h', false_or]
        split <;> rfl

theorem indices_addDelay (t : Timeline) (index secs : UInt64) :
    (t.addDelay index secs).indices =
      if secs = 0 ∨ index ∈ t.indices then t.indices else t.indices ++ [index] := by
  unfold addDelay indices
  by_cases h : secs = 0
  · simp [h]
  · rw [if_neg h]
    simpa only [h, false_or] using indices_holdBack index secs t.actions

theorem indices_fail (index : UInt64) (code : UInt16) (actions : List SegmentAction) :
    (fail index code actions).map SegmentAction.index =
      if (actions.map SegmentAction.index).getLast? = some index then
        actions.map SegmentAction.index
      else actions.map SegmentAction.index ++ [index] := by
  fun_induction fail index code actions with
  | case1 => rfl
  | case2 a h => simp [h]
  | case3 a h => simp [h]
  | case4 a b rest ih =>
      rw [List.map_cons, ih]
      simp only [List.map_cons, List.getLast?_cons_cons]
      split <;> rfl

theorem indices_addFailure (t : Timeline) (index : UInt64) (code : UInt16) :
    (t.addFailure index code).indices =
      if t.indices.getLast? = some index then t.indices else t.indices ++ [index] :=
  indices_fail index code t.actions

/-- **What one operation does to the indices.**  Either the list stays as it is, and the mark of
the operation, if it leaves one, is already there; or the mark is added at the end.  Only a failure
adds a segment that is there already, and only where it is not the last one. -/
theorem indices_record (t : Timeline) (cursor : UInt64) (op : Operation) :
    (t.record cursor op).indices = t.indices ∧
        (∀ m, markOf? (cursor.toNat, op) = some m → clip m ∈ t.indices) ∨
      ∃ i, (t.record cursor op).indices = t.indices ++ [i] ∧
        markOf? (cursor.toNat, op) = some i.toNat ∧
        (i ∈ t.indices →
          i = cursor ∧ t.indices.getLast? ≠ some cursor ∧ ∃ code, op = .failure code) := by
  cases op with
  | startup delay =>
      simp only [record, indices_addDelay, markOf?]
      by_cases h : delay = 0
      · simp [h]
      · by_cases hm : (0 : UInt64) ∈ t.indices
        · left
          simp [h, hm]
        · right
          exact ⟨0, by simp [h, hm], by simp [h], fun hi => absurd hi hm⟩
  | playback duration => left; simp [record, markOf?]
  | rebuffer delay =>
      simp only [record, indices_addDelay, markOf?]
      by_cases h : delay = 0
      · simp [h]
      · by_cases hm : cursor ∈ t.indices
        · left
          simp [h, hm]
        · right
          exact ⟨cursor, by simp [h, hm], by simp [h], fun hi => absurd hi hm⟩
  | failure code =>
      simp only [record, indices_addFailure, markOf?]
      by_cases hl : t.indices.getLast? = some cursor
      · left
        simp [hl, List.mem_of_getLast? hl]
      · right
        exact ⟨cursor, by simp [hl], rfl, fun _ => ⟨rfl, hl, code, rfl⟩⟩

theorem mem_indices_record (t : Timeline) (cursor : UInt64) (op : Operation) (i : UInt64) :
    i ∈ (t.record cursor op).indices ↔
      i ∈ t.indices ∨ ∃ m, markOf? (cursor.toNat, op) = some m ∧ clip m = i := by
  obtain ⟨e, hm⟩ | ⟨j, e, hm, -⟩ := indices_record t cursor op
  · rw [e]
    refine ⟨Or.inl, ?_⟩
    rintro (h | ⟨m, h, rfl⟩)
    · exact h
    · exact hm m h
  · rw [e, hm, List.mem_append, List.mem_singleton]
    simp only [Option.some.injEq, exists_eq_left', clip_toNat]
    exact or_congr_right eq_comm

/-- Clipping the cursor clips the mark. -/
theorem exists_markOf?_clip (n : Nat) (op : Operation) (i : UInt64) :
    (∃ m, markOf? ((clip n).toNat, op) = some m ∧ clip m = i) ↔
      ∃ m, markOf? (n, op) = some m ∧ clip m = i := by
  cases op with
  | startup delay => rfl
  | playback duration => rfl
  | rebuffer delay => by_cases h : delay = 0 <;> simp [markOf?, h]
  | failure code => simp [markOf?]

/-- **The segments that a timeline mentions** are the marks of its operations, clipped. -/
theorem mem_indices_ofOperations (ops : List Operation) (i : UInt64) :
    i ∈ (ofOperations ops).indices ↔ ∃ m ∈ marks ops, clip m = i := by
  induction ops using List.reverseRecOn with
  | nil => simp [ofOperations, marks, placed]
  | append_singleton xs op ih =>
      rw [ofOperations_concat, mem_indices_record, exists_markOf?_clip, ih, marks_concat]
      simp only [List.mem_append, Option.mem_toList, or_and_right, exists_or]

theorem zero_mem_indices_ofOperations (ops : List Operation) :
    (0 : UInt64) ∈ (ofOperations ops).indices ↔ 0 ∈ marks ops := by
  rw [mem_indices_ofOperations]
  constructor
  · rintro ⟨m, hm, e⟩
    have e := congrArg UInt64.toNat e
    simp only [toNat_clip, maxCount, UInt64.toNat_zero] at e
    have h0 : m = 0 := by omega
    exact h0 ▸ hm
  · intro h
    exact ⟨0, h, rfl⟩

/-- All segments that cannot be counted are listed as the last one that can. -/
theorem limit_mem_indices_ofOperations {limit : UInt64} (h : limit.toNat = maxCount)
    (ops : List Operation) :
    limit ∈ (ofOperations ops).indices ↔ ∃ m ∈ marks ops, maxCount ≤ m := by
  rw [mem_indices_ofOperations]
  refine exists_congr fun m => and_congr_right fun _ => ?_
  rw [← UInt64.toNat_inj, toNat_clip, h]
  omega

/-! ### The invariant of a run -/

/-- The order in which two indices may be listed: a startup returns to segment zero, all else moves
on, and only the last of all segments can be listed again. -/
def Precedes (i j : UInt64) : Prop := (j = 0 ∨ i ≤ j) ∧ (i = j → i.toNat = maxCount)

/-- What ties the listed indices to the cursor. -/
structure Trail (is : List UInt64) (cursor : UInt64) : Prop where
  /-- Nothing is listed past the cursor. -/
  le : ∀ i ∈ is, i ≤ cursor
  /-- Only what is listed last can be at the cursor. -/
  earlier : cursor.toNat < maxCount → ∀ i ∈ is.dropLast, i < cursor
  ordered : is.Pairwise Precedes

theorem Trail.nil (cursor : UInt64) : Trail [] cursor :=
  ⟨nofun, fun _ => nofun, List.Pairwise.nil⟩

theorem toNat_advance (cursor : UInt64) (op : Operation) :
    (advance cursor op).toNat = min (cursor.toNat + op.slots) maxCount := by
  simp only [advance, toNat_clip]

theorem le_advance (cursor : UInt64) (op : Operation) : cursor ≤ advance cursor op := by
  have := toNat_le_maxCount cursor
  rw [UInt64.le_iff_toNat_le, toNat_advance]
  omega

/-- The cursor may move on without anything being listed. -/
theorem Trail.mono {is : List UInt64} {cursor cursor' : UInt64} (h : Trail is cursor)
    (hle : cursor ≤ cursor') : Trail is cursor' where
  le i hi := UInt64.le_trans (h.le i hi) hle
  earlier hlt i hi := by
    rw [UInt64.le_iff_toNat_le] at hle
    have := UInt64.lt_iff_toNat_lt.1 (h.earlier (by omega) i hi)
    rw [UInt64.lt_iff_toNat_lt]
    omega
  ordered := h.ordered

/-- A segment that is listed at the cursor is listed last, unless the cursor is at its limit. -/
theorem Trail.getLast?_eq {is : List UInt64} {cursor : UInt64} (h : Trail is cursor)
    (hlt : cursor.toNat < maxCount) (hmem : cursor ∈ is) : is.getLast? = some cursor := by
  obtain ⟨init, last, rfl⟩ : ∃ init last, is = init ++ [last] :=
    ⟨is.dropLast, is.getLast (List.ne_nil_of_mem hmem), (List.dropLast_concat_getLast _).symm⟩
  rw [List.mem_append, List.mem_singleton] at hmem
  rcases hmem with hmem | rfl
  · have := h.earlier hlt cursor (by simpa using hmem)
    exact absurd this (UInt64.lt_irrefl cursor)
  · simp

theorem Trail.record {t : Timeline} {cursor : UInt64} (h : Trail t.indices cursor)
    (op : Operation) : Trail (t.record cursor op).indices (advance cursor op) := by
  have hadv := le_advance cursor op
  obtain ⟨e, -⟩ | ⟨i, e, hm, hdup⟩ := indices_record t cursor op
  · rw [e]
    exact h.mono hadv
  obtain ⟨hi, hop⟩ := of_markOf?_eq_some hm
  have hi : i = 0 ∨ i = cursor :=
    hi.imp (fun h0 => UInt64.toNat_inj.1 h0) (fun hc => UInt64.toNat_inj.1 hc)
  rw [e]
  refine ⟨?_, ?_, ?_⟩
  · intro j hj
    rw [List.mem_append, List.mem_singleton] at hj
    rcases hj with hj | rfl
    · exact UInt64.le_trans (h.le j hj) hadv
    · rcases hi with rfl | rfl
      · exact UInt64.zero_le
      · exact hadv
  · intro hlt j hj
    rw [List.dropLast_concat] at hj
    have hle := UInt64.le_iff_toNat_le.1 (h.le j hj)
    rw [toNat_advance] at hlt
    rw [UInt64.lt_iff_toNat_lt, toNat_advance]
    rcases hop with hslots | ⟨hc, delay, rfl⟩
    · omega
    · -- a rebuffer lists the cursor's segment only if nothing is listed there
      have hc : i = cursor := UInt64.toNat_inj.1 hc
      have hne : j.toNat ≠ cursor.toNat := by
        intro hjc
        have hjc : j = i := (UInt64.toNat_inj.1 hjc).trans hc.symm
        obtain ⟨-, -, code, hcode⟩ := hdup (hjc ▸ hj)
        exact absurd hcode nofun
      omega
  · rw [List.pairwise_append]
    refine ⟨h.ordered, List.pairwise_singleton _ _, ?_⟩
    intro j hj k hk
    rw [List.mem_singleton] at hk
    subst hk
    refine ⟨?_, ?_⟩
    · rcases hi with h0 | hc
      · exact Or.inl h0
      · rw [hc]
        exact Or.inr (h.le j hj)
    rintro rfl
    obtain ⟨rfl, hlast, -⟩ := hdup hj
    by_contra hne
    have := toNat_le_maxCount j
    exact hlast (h.getLast?_eq (by omega) hj)

/-- **The invariant holds after every run.** -/
theorem trail_ofOperations (ops : List Operation) :
    Trail (ofOperations ops).indices (clip (slotSum ops)) := by
  induction ops using List.reverseRecOn with
  | nil => exact Trail.nil _
  | append_singleton xs op ih =>
      rw [ofOperations_concat, slotSum_concat, ← advance_clip]
      exact ih.record op

/-- What is listed after the last countable segment can only be segment zero, or that one again. -/
theorem Trail.eq_zero_of_limit {is : List UInt64} {i limit cursor : UInt64}
    (h : Trail (is ++ [i]) cursor) (hlimit : limit.toNat = maxCount) (hmem : limit ∈ is)
    (hne : i ≠ limit) : i = 0 := by
  have hprec := (List.pairwise_append.1 h.ordered).2.2
  obtain ⟨h0 | hle, -⟩ := hprec limit hmem i (List.mem_singleton_self i)
  · exact h0
  · have := toNat_le_maxCount i
    rw [UInt64.le_iff_toNat_le] at hle
    exact absurd (UInt64.toNat_inj.1 (by omega)) hne

/-- Segment zero is listed once. -/
theorem Trail.zero_notMem {is : List UInt64} {cursor : UInt64} (h : Trail (is ++ [0]) cursor) :
    0 ∉ is := by
  intro h0
  have hprec := (List.pairwise_append.1 h.ordered).2.2
  have := (hprec 0 h0 0 (List.mem_singleton_self 0)).2 rfl
  exact absurd this (by decide)

/-- While the cursor is not at its limit, no segment is listed twice. -/
theorem Trail.nodup {is : List UInt64} {cursor : UInt64} (h : Trail is cursor)
    (hlt : cursor.toNat < maxCount) : is.Nodup := by
  refine h.ordered.imp_of_mem fun {i j} hi _ hprec => ?_
  rintro rfl
  have hlimit := hprec.2 rfl
  have hle := UInt64.le_iff_toNat_le.1 (h.le i hi)
  omega

theorem get?_of_mem {t : Timeline} (h : t.indices.Nodup) {a : SegmentAction}
    (ha : a ∈ t.actions) : t.get? a.index = some a := by
  obtain ⟨actions⟩ := t
  unfold indices at h
  induction actions with
  | nil => exact absurd ha List.not_mem_nil
  | cons b rest ih =>
      rw [List.map_cons, List.nodup_cons] at h
      rw [get?_cons]
      rcases List.mem_cons.1 ha with rfl | ha
      · exact if_pos rfl
      · have hne : b.index ≠ a.index := by
          intro e
          exact h.1 (e ▸ List.mem_map_of_mem ha)
        rw [if_neg hne]
        exact ih h.2 ha

end StreamRehearsal.Timeline
