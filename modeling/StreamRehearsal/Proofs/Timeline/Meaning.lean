import StreamRehearsal.Proofs.Timeline.Cursor

/-! # What a timeline means

A timeline is built by one walk with a cursor; what it says about a segment is a sum over positions.

* Asking by index is looking the index up, for every length of segments (`resolve_eq_lookup`), so a
  treatment is known by the two parts of `Timeline.lookup`.
* `delay?_lookup_record` and `code?_lookup_record` say what one operation does to the delay and to
  the status code of any segment: it adds its share of the schedule.
* `resolve_ofOperations` is the outcome: as long as the segments taken up can be counted, the
  treatment of every segment is the one that the schedule gives. -/

namespace StreamRehearsal.Timeline

open Schedule

/-! ### Asking by index -/

theorem resolve_eq_lookup (t : Timeline) (index : UInt64) (length : SegmentLength) :
    t.resolve index length = t.lookup index := by
  unfold resolve
  split
  next h =>
    unfold resolveElapsed
    rw [toNat_ofNat_of_le h, ceilDiv_mul _ length.positive, UInt64.ofNat_toNat]
  next => rfl

theorem delay?_lookup (t : Timeline) (index : UInt64) :
    (t.lookup index).delay? = (t.get? index).bind SegmentAction.delay := by
  unfold lookup
  cases t.get? index with
  | none => rfl
  | some a => exact Treatment.delay?_ofParts a.delay a.code

theorem code?_lookup (t : Timeline) (index : UInt64) :
    (t.lookup index).code? = (t.get? index).bind SegmentAction.code := by
  unfold lookup
  cases t.get? index with
  | none => rfl
  | some a => exact Treatment.code?_ofParts a.delay a.code

/-! ### Delays -/

theorem lookup_addDelay_of_ne {index other : UInt64} (h : index ≠ other) (t : Timeline)
    (secs : UInt64) : (t.addDelay index secs).lookup other = t.lookup other := by
  unfold lookup
  rw [get?_addDelay_of_ne h]

/-- Delays on one segment add up, clipped; a sum of zero is no delay. -/
theorem delay?_lookup_addDelay_self {t : Timeline} {index : UInt64} {n : Nat}
    (h : (t.lookup index).delay? = positiveDelay n) (secs : UInt64) :
    ((t.addDelay index secs).lookup index).delay? = positiveDelay (n + secs.toNat) := by
  by_cases hs : secs = 0
  · subst hs
    simpa using h
  have hpos : 0 < secs.toNat :=
    Nat.pos_of_ne_zero fun h0 => hs (UInt64.toNat_inj.1 h0)
  have hprolong : ((t.addDelay index secs).lookup index).delay? =
      some (clip ((((t.lookup index).delay?).getD 0).toNat + secs.toNat)) := by
    rw [delay?_lookup, delay?_lookup, get?_addDelay_self hs]
    cases t.get? index with
    | none => simp [SegmentAction.delayed]
    | some a => rfl
  rw [hprolong, h, toNat_getD_positiveDelay, clip_min_add, positiveDelay_of_pos (by omega)]

theorem code?_lookup_addDelay (t : Timeline) (index secs other : UInt64) :
    ((t.addDelay index secs).lookup other).code? = (t.lookup other).code? := by
  by_cases hne : index = other
  · subst hne
    by_cases hs : secs = 0
    · subst hs
      rfl
    · rw [code?_lookup, code?_lookup, get?_addDelay_self hs]
      cases t.get? index <;> rfl
  · rw [lookup_addDelay_of_ne hne]

/-! ### Failures -/

theorem lookup_addFailure_of_ne {index other : UInt64} (h : index ≠ other) (t : Timeline)
    (code : UInt16) : (t.addFailure index code).lookup other = t.lookup other := by
  unfold lookup
  rw [get?_addFailure_of_ne h]

theorem delay?_lookup_addFailure (t : Timeline) (index : UInt64) (code : UInt16)
    (other : UInt64) :
    ((t.addFailure index code).lookup other).delay? = (t.lookup other).delay? := by
  by_cases hne : index = other
  · subst hne
    rw [delay?_lookup, delay?_lookup]
    obtain ⟨actions⟩ := t
    unfold addFailure
    fun_induction fail index code actions with
    | case1 => simp [get?, SegmentAction.failed]
    | case2 a h => simp [get?_cons, h]
    | case3 a h => simp [get?, h, SegmentAction.failed]
    | case4 a b rest ih => by_cases h : a.index = index <;> simp [get?_cons a, h, ih]
  · rw [lookup_addFailure_of_ne hne]

/-- A failure of the segment that was listed last, or of one that is not listed, is found. -/
theorem code?_lookup_addFailure_self {t : Timeline} {index : UInt64}
    (h : ∀ j ∈ t.indices.dropLast, j ≠ index) (code : UInt16) :
    ((t.addFailure index code).lookup index).code? = some code := by
  rw [code?_lookup]
  obtain ⟨actions⟩ := t
  unfold addFailure
  unfold indices at h
  fun_induction fail index code actions with
  | case1 => simp [get?_cons, SegmentAction.failed]
  | case2 a ha => simp [get?_cons, ha]
  | case3 a ha => simp [get?_cons, ha, SegmentAction.failed]
  | case4 a b rest ih =>
      simp only [List.map_cons, List.dropLast_cons_cons, List.mem_cons, forall_eq_or_imp] at h ih
      rw [get?_cons, if_neg h.1]
      exact ih h.2

/-! ### One operation -/

/-- **What one operation does to a delay**: it adds its share. -/
theorem delay?_lookup_record {t : Timeline} {cursor index : UInt64} {n : Nat}
    (h : (t.lookup index).delay? = positiveDelay n) (op : Operation) :
    ((t.record cursor op).lookup index).delay? =
      positiveDelay (n + delayShare index.toNat (cursor.toNat, op)) := by
  cases op with
  | startup delay =>
      simp only [record, delayShare]
      by_cases h0 : index = 0
      · subst h0
        simpa using delay?_lookup_addDelay_self h delay
      · have hne : index.toNat ≠ 0 := fun e => h0 (UInt64.toNat_inj.1 e)
        rw [lookup_addDelay_of_ne (fun e => h0 e.symm), h, if_neg hne, Nat.add_zero]
  | playback duration => simpa [record, delayShare] using h
  | rebuffer delay =>
      simp only [record, delayShare]
      by_cases hc : cursor = index
      · subst hc
        simpa using delay?_lookup_addDelay_self h delay
      · have hne : cursor.toNat ≠ index.toNat := fun e => hc (UInt64.toNat_inj.1 e)
        rw [lookup_addDelay_of_ne hc, h, if_neg hne, Nat.add_zero]
  | failure code =>
      simp only [record, delayShare, Nat.add_zero]
      rw [delay?_lookup_addFailure, h]

/-- **What one operation does to a status code**: it gives its share, if it has one.  A failure
needs room for one more segment, as only then the cursor's segment can be no earlier action's. -/
theorem code?_lookup_record {t : Timeline} {cursor : UInt64} (h : Trail t.indices cursor)
    {op : Operation} (hroom : cursor.toNat + op.slots ≤ maxCount) (index : UInt64) :
    ((t.record cursor op).lookup index).code? =
      (codeShare index.toNat (cursor.toNat, op)).or (t.lookup index).code? := by
  cases op with
  | startup delay => exact code?_lookup_addDelay t 0 delay index
  | playback duration => rfl
  | rebuffer delay => exact code?_lookup_addDelay t cursor delay index
  | failure code =>
      rw [Operation.slots_failure] at hroom
      simp only [record, codeShare]
      by_cases hc : cursor = index
      · subst hc
        have hne : ∀ j ∈ t.indices.dropLast, j ≠ cursor := by
          intro j hj
          exact UInt64.ne_of_lt (h.earlier (by omega) j hj)
        rw [code?_lookup_addFailure_self hne, if_pos rfl]
        rfl
      · have hne : cursor.toNat ≠ index.toNat := fun e => hc (UInt64.toNat_inj.1 e)
        rw [lookup_addFailure_of_ne hc, if_neg hne]
        rfl

/-! ### All operations -/

theorem delay?_lookup_ofOperations {ops : List Operation} (h : slotSum ops ≤ maxCount)
    (index : UInt64) :
    ((ofOperations ops).lookup index).delay? = positiveDelay (delayAt ops index.toNat) := by
  induction ops using List.reverseRecOn with
  | nil => rfl
  | append_singleton xs op ih =>
      rw [slotSum_concat] at h
      have hxs : slotSum xs ≤ maxCount := by omega
      rw [ofOperations_concat, delayAt_concat, delay?_lookup_record (ih hxs),
        toNat_clip_of_le hxs]

theorem code?_lookup_ofOperations {ops : List Operation} (h : slotSum ops ≤ maxCount)
    (index : UInt64) :
    ((ofOperations ops).lookup index).code? = (codesAt ops index.toNat).head? := by
  induction ops using List.reverseRecOn with
  | nil => rfl
  | append_singleton xs op ih =>
      rw [slotSum_concat] at h
      have hxs : slotSum xs ≤ maxCount := by omega
      have hc : (clip (slotSum xs)).toNat = slotSum xs := toNat_clip_of_le hxs
      rw [ofOperations_concat, codesAt_concat,
        code?_lookup_record (trail_ofOperations xs) (by omega), hc, ih hxs]
      -- of the codes so far and the new one at most one is there
      have hone := length_codesAt_le_one (xs ++ [op]) index.toNat
      rw [codesAt_concat] at hone
      cases hcodes : codesAt xs index.toNat with
      | nil => cases codeShare index.toNat (slotSum xs, op) <;> rfl
      | cons code rest =>
          rw [hcodes] at hone
          cases hs : codeShare index.toNat (slotSum xs, op) with
          | none => rfl
          | some c => simp [hs] at hone

theorem lookup_ofOperations {ops : List Operation} (h : slotSum ops ≤ maxCount)
    (index : UInt64) : (ofOperations ops).lookup index = treatmentAt ops index.toNat := by
  rw [← Treatment.ofParts_delay?_code? (lookup _ _), delay?_lookup_ofOperations h,
    code?_lookup_ofOperations h]
  rfl

/-- However long the operations are, no segment is held back for zero seconds. -/
theorem delay?_lookup_ofOperations_ne_zero (ops : List Operation) (index : UInt64) :
    ((ofOperations ops).lookup index).delay? ≠ some 0 := by
  have hsum : ∃ n, ((ofOperations ops).lookup index).delay? = positiveDelay n := by
    induction ops using List.reverseRecOn with
    | nil => exact ⟨0, rfl⟩
    | append_singleton xs op ih =>
        obtain ⟨n, hn⟩ := ih
        rw [ofOperations_concat]
        exact ⟨_, delay?_lookup_record hn op⟩
  obtain ⟨n, hn⟩ := hsum
  rw [hn]
  exact positiveDelay_ne_zero n

/-- **The meaning of a scenario.**  As long as the segments that the operations take up can be
counted, each segment is treated as the schedule says, for segments of any length: it is held back
for the sum of all delays that fall on it, and failed with the code of the one failure at its
position. -/
theorem resolve_ofOperations (ops : List Operation) (h : slotSum ops ≤ maxCount)
    (length : SegmentLength) (index : UInt64) :
    (ofOperations ops).resolve index length = treatmentAt ops index.toNat ∧
      (codesAt ops index.toNat).length ≤ 1 := by
  refine ⟨?_, length_codesAt_le_one ops index.toNat⟩
  rw [resolve_eq_lookup]
  exact lookup_ofOperations h index

/-- A stall, a failure and a late startup on one segment, and a stall after playback. -/
theorem resolve_ofOperations_of_five :
    let ops : List Operation :=
      [.rebuffer 10, .failure 404, .startup 5, .playback 12, .rebuffer 3]
    slotSum ops ≤ maxCount ∧
      (ofOperations ops).resolve 0 .nominal = .delayedFailure 15 404 ∧
      (ofOperations ops).resolve 5 .nominal = .delayed 3 := by
  intro ops
  have h : slotSum ops ≤ maxCount := by decide
  exact ⟨h, (resolve_ofOperations ops h .nominal 0).1.trans (by decide),
    (resolve_ofOperations ops h .nominal 5).1.trans (by decide)⟩

end StreamRehearsal.Timeline
