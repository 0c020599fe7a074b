import StreamRehearsal.Proofs.Timeline.Cursor

/-! # Distinct indices

A failure joins the action listed last and does not look further back, so an index is listed twice
when something else was listed since.  While the cursor moves this cannot happen (`Trail`).  At its
limit it can: the last countable segment is listed, a first startup lists segment zero after it, and
the next failure no longer finds the last segment at the end.  `ReturnsLate` describes these
operations by their exact positions, and `nodup_indices_iff` says that there are no others. -/

namespace StreamRehearsal.Timeline

open Schedule

/-- The operations mark a segment at or past the last countable one, only then return to segment
zero for the first time, and fail some segment after that. -/
def ReturnsLate (ops : List Operation) : Prop :=
  ∃ xs delay ys, ops = xs ++ .startup delay :: ys ∧ delay ≠ 0 ∧ 0 ∉ marks xs ∧
    (∃ m ∈ marks xs, maxCount ≤ m) ∧ ∃ code, Operation.failure code ∈ ys

/-! ### Indices are only ever added -/

theorem prefix_indices_record (t : Timeline) (cursor : UInt64) (op : Operation) :
    t.indices <+: (t.record cursor op).indices := by
  obtain ⟨e, -⟩ | ⟨i, e, -⟩ := indices_record t cursor op
  · exact e.symm ▸ List.prefix_refl t.indices
  · rw [e]
    exact List.prefix_append _ _

theorem prefix_indices_extend (t : Timeline) (cursor : UInt64) (ops : List Operation) :
    t.indices <+: (t.extend cursor ops).indices := by
  induction ops generalizing t cursor with
  | nil => exact List.prefix_refl _
  | cons op ops ih => exact (prefix_indices_record t cursor op).trans (ih _ _)

/-! ### A late return lists an index twice -/

/-- A cursor at its limit stays there. -/
theorem advance_of_limit {cursor : UInt64} (h : cursor.toNat = maxCount) (op : Operation) :
    advance cursor op = cursor := by
  apply UInt64.toNat_inj.1
  rw [toNat_advance]
  omega

/-- With the cursor at its limit and segment zero listed last, the next failure lists the cursor's
segment again; whatever comes before it lists nothing. -/
theorem not_nodup_extend_of_limit {t : Timeline} {cursor : UInt64} {ops : List Operation}
    (hlimit : cursor.toNat = maxCount) (hmem : cursor ∈ t.indices)
    (hlast : t.indices.getLast? = some 0) {code : UInt16} (hfail : .failure code ∈ ops) :
    ¬ (t.extend cursor ops).indices.Nodup := by
  have hzero : (0 : UInt64) ∈ t.indices := List.mem_of_getLast? hlast
  induction ops generalizing t with
  | nil => exact absurd hfail List.not_mem_nil
  | cons op ops ih =>
      rw [extend_cons, advance_of_limit hlimit]
      -- only a failure can change the indices here
      have hkeep : (t.record cursor op).indices = t.indices →
          .failure code ∈ ops → ¬ ((t.record cursor op).extend cursor ops).indices.Nodup := by
        intro e hin
        exact ih (e ▸ hmem) (e ▸ hlast) hin (e ▸ hzero)
      cases op with
      | startup delay =>
          exact hkeep (by simp [record, indices_addDelay, hzero]) (by simpa using hfail)
      | playback duration => exact hkeep rfl (by simpa using hfail)
      | rebuffer delay =>
          exact hkeep (by simp [record, indices_addDelay, hmem]) (by simpa using hfail)
      | failure c =>
          have hne : t.indices.getLast? ≠ some cursor := by
            rw [hlast, ne_eq, Option.some.injEq]
            rintro rfl
            exact absurd hlimit (by decide)
          have e : (t.record cursor (.failure c)).indices = t.indices ++ [cursor] := by
            simp only [record, indices_addFailure]
            rw [if_neg hne]
          intro hnodup
          have := (prefix_indices_extend _ cursor ops).sublist.nodup hnodup
          rw [e, List.nodup_append] at this
          exact this.2.2 cursor hmem cursor (List.mem_singleton_self cursor) rfl

theorem not_nodup_of_returnsLate {ops : List Operation} (h : ReturnsLate ops) :
    ¬ (ofOperations ops).indices.Nodup := by
  obtain ⟨xs, delay, ys, rfl, hd, hzero, ⟨m, hm, hmax⟩, code, hcode⟩ := h
  have hlimit : (clip (slotSum xs)).toNat = maxCount := by
    have := le_slotSum_of_mem_marks hm
    rw [toNat_clip]
    omega
  have hmem : clip (slotSum xs) ∈ (ofOperations xs).indices :=
    (limit_mem_indices_ofOperations hlimit xs).2 ⟨m, hm, hmax⟩
  have hnew : (0 : UInt64) ∉ (ofOperations xs).indices := by
    rwa [zero_mem_indices_ofOperations]
  have e : ((ofOperations xs).record (clip (slotSum xs)) (.startup delay)).indices =
      (ofOperations xs).indices ++ [0] := by
    simp [record, indices_addDelay, hd, hnew]
  rw [ofOperations_append, extend_cons, advance_of_limit hlimit]
  exact not_nodup_extend_of_limit hlimit (by rw [e]; exact List.mem_append_left _ hmem)
    (by rw [e, List.getLast?_concat]) hcode

/-! ### Only a late return does -/

theorem ReturnsLate.concat {ops : List Operation} (h : ReturnsLate ops) (op : Operation) :
    ReturnsLate (ops ++ [op]) := by
  obtain ⟨xs, delay, ys, rfl, hd, hzero, hm, code, hcode⟩ := h
  exact ⟨xs, delay, ys ++ [op], by simp, hd, hzero, hm, code, List.mem_append_left _ hcode⟩

/-- If the last countable segment is listed, but not last, then a startup has returned to segment
zero for the first time since. -/
theorem exists_startup_of_limit {ops : List Operation} {limit : UInt64}
    (hlimit : limit.toNat = maxCount) (hmem : limit ∈ (ofOperations ops).indices)
    (hlast : (ofOperations ops).indices.getLast? ≠ some limit) :
    ∃ xs delay ys, ops = xs ++ .startup delay :: ys ∧ delay ≠ 0 ∧ 0 ∉ marks xs ∧
      ∃ m ∈ marks xs, maxCount ≤ m := by
  induction ops using List.reverseRecOn with
  | nil => exact absurd hmem List.not_mem_nil
  | append_singleton xs op ih =>
      have htrail := trail_ofOperations (xs ++ [op])
      rw [ofOperations_concat] at hmem hlast htrail
      obtain ⟨e, -⟩ | ⟨i, e, hmark, -⟩ := indices_record (ofOperations xs) (clip (slotSum xs)) op
      · rw [e] at hmem hlast
        obtain ⟨xs', delay, ys, rfl, h⟩ := ih hmem hlast
        exact ⟨xs', delay, ys ++ [op], by simp, h⟩
      rw [e] at hmem hlast htrail
      rw [List.getLast?_concat, ne_eq, Option.some.injEq] at hlast
      have hin : limit ∈ (ofOperations xs).indices := by
        rw [List.mem_append, List.mem_singleton] at hmem
        exact hmem.resolve_right fun h => hlast h.symm
      obtain rfl : i = 0 := htrail.eq_zero_of_limit hlimit hin hlast
      have hnew : 0 ∉ marks xs := by
        rw [← zero_mem_indices_ofOperations]
        exact htrail.zero_notMem
      have hcursor : (clip (slotSum xs)).toNat ≠ 0 := by
        have hle := UInt64.le_iff_toNat_le.1 ((trail_ofOperations xs).le limit hin)
        rw [hlimit] at hle
        simp only [maxCount] at hle
        omega
      obtain ⟨delay, rfl, hd⟩ := of_markOf?_eq_zero hmark hcursor
      exact ⟨xs, delay, [], rfl, hd, hnew, (limit_mem_indices_ofOperations hlimit xs).1 hin⟩

theorem returnsLate_of_not_nodup {ops : List Operation}
    (h : ¬ (ofOperations ops).indices.Nodup) : ReturnsLate ops := by
  induction ops using List.reverseRecOn with
  | nil => exact absurd List.nodup_nil h
  | append_singleton xs op ih =>
      by_cases hxs : (ofOperations xs).indices.Nodup
      · rw [ofOperations_concat] at h
        obtain ⟨e, -⟩ | ⟨i, e, -, hdup⟩ :=
          indices_record (ofOperations xs) (clip (slotSum xs)) op
        · exact absurd (e ▸ hxs) h
        have hin : i ∈ (ofOperations xs).indices := by
          by_contra hnot
          rw [e] at h
          exact h (List.nodup_append.2 ⟨hxs, List.pairwise_singleton _ i, by
            intro a ha b hb
            rw [List.mem_singleton] at hb
            rintro rfl
            exact hnot (hb ▸ ha)⟩)
        obtain ⟨rfl, hlast, code, rfl⟩ := hdup hin
        have hlimit : (clip (slotSum xs)).toNat = maxCount := by
          by_contra hne
          have := toNat_le_maxCount (clip (slotSum xs))
          exact hlast ((trail_ofOperations xs).getLast?_eq (by omega) hin)
        obtain ⟨xs', delay, ys, rfl, hd, hzero, hm⟩ := exists_startup_of_limit hlimit hin hlast
        exact ⟨xs', delay, ys ++ [.failure code], by simp, hd, hzero, hm, code, by simp⟩
      · exact (ih hxs).concat op

/-- **When no segment is listed twice**: unless the operations return late to segment zero. -/
theorem nodup_indices_iff (ops : List Operation) :
    (ofOperations ops).indices.Nodup ↔ ¬ ReturnsLate ops :=
  ⟨fun h hlate => not_nodup_of_returnsLate hlate h,
    fun h => by_contra fun hdup => h (returnsLate_of_not_nodup hdup)⟩

/-- Five longest playbacks bring the cursor to its limit.  A failure there, a startup and another
failure list the last countable segment twice, and the second failure is never found. -/
theorem not_nodup_indices_at_limit :
    let longest : UInt64 := 18446744073709551615
    let ops : List Operation :=
      [.playback longest, .playback longest, .playback longest, .playback longest,
        .playback longest, .failure 404, .startup 1, .failure 503]
    (ofOperations ops).indices = [longest, 0, longest] ∧
      ¬ (ofOperations ops).indices.Nodup := by
  decide

end StreamRehearsal.Timeline
