import StreamRehearsal.Proofs.Scenario.Length
import StreamRehearsal.Proofs.Timeline.Meaning

/-! # Conservation of events

What a scenario injects is what a player meets that asks for the listed segments one by one: every
failure once and in order, every second of delay, and nothing out of reach.

The timeline and the nominal length are two separate recursions over the operations.  They agree
because both count the segments taken up (`toNat_segmentCount_eq`), and the schedule says what
happens to those (`Schedule.flatMap_codesAt`, `Schedule.sum_delayAt`).  Only a stall at the end
falls on a segment that is not listed, the one after the last (`mem_end_iff`). -/

namespace StreamRehearsal.Scenario

open Schedule Timeline

section

variable {ops : List Operation} (h : slotSum ops * segmentSeconds ≤ maxCount)

include h

theorem slotSum_lt_maxCount : slotSum ops < maxCount := by
  simp only [segmentSeconds, maxCount] at *
  omega

/-- While the length can be counted, the number of listed segments is exact. -/
theorem toNat_segmentCount_eq : (ofOperations ops).segmentCount.toNat = slotSum ops := by
  rw [toNat_segmentCount_ofOperations]
  simp only [segmentSeconds, maxCount] at *
  omega

theorem segmentCount_eq : (ofOperations ops).segmentCount = clip (slotSum ops) := by
  apply UInt64.toNat_inj.1
  rw [toNat_segmentCount_eq h, toNat_clip_of_le (slotSum_lt_maxCount h).le]

theorem resolve_eq_treatmentAt {index : Nat} (hi : index ≤ slotSum ops) (length : SegmentLength) :
    (ofOperations ops).timeline.resolve (UInt64.ofNat index) length = treatmentAt ops index := by
  have hlt := slotSum_lt_maxCount h
  have hlookup := lookup_ofOperations hlt.le (UInt64.ofNat index)
  rw [toNat_ofNat_of_le (hi.trans hlt.le)] at hlookup
  rw [resolve_eq_lookup]
  exact hlookup

/-! ### What the listed segments hold -/

/-- The failures of the listed segments are all failures, in order. -/
theorem filterMap_code?_resolve (length : SegmentLength) :
    (List.range (slotSum ops)).filterMap
        (fun i => ((ofOperations ops).timeline.resolve (UInt64.ofNat i) length).code?) =
      codes ops := by
  rw [← flatMap_codesAt, List.filterMap_eq_flatMap_toList]
  refine List.flatMap_congr fun i hi => ?_
  rw [resolve_eq_treatmentAt h (List.mem_range.1 hi).le, treatmentAt, Treatment.code?_ofParts,
    toList_head?_codesAt]

/-- The delays of the listed segments and of the one after them add up to all delays. -/
theorem sum_delay?_resolve (length : SegmentLength) (htotal : delayTotal ops ≤ maxCount) :
    ∑ i ∈ Finset.range (slotSum ops + 1),
        (((ofOperations ops).timeline.resolve (UInt64.ofNat i) length).delay?.getD 0).toNat =
      delayTotal ops := by
  rw [← sum_delayAt (Nat.le_refl (slotSum ops))]
  refine Finset.sum_congr rfl fun i hi => ?_
  have hle := delayAt_le_delayTotal ops i
  rw [resolve_eq_treatmentAt h (Nat.le_of_lt_succ (Finset.mem_range.1 hi)), treatmentAt,
    Treatment.delay?_ofParts, toNat_getD_positiveDelay]
  omega

/-! ### The end of the list -/

theorem index_le_segmentCount {a : SegmentAction} (ha : a ∈ (ofOperations ops).timeline.actions) :
    a.index ≤ (ofOperations ops).segmentCount := by
  rw [segmentCount_eq h]
  exact (trail_ofOperations ops).le a.index (List.mem_map_of_mem ha)

/-- The segment after the last is mentioned exactly by a stall that no segment follows. -/
theorem mem_end_iff :
    (∃ a ∈ (ofOperations ops).timeline.actions, a.index = (ofOperations ops).segmentCount) ↔
      ∃ xs delay ys, ops = xs ++ .rebuffer delay :: ys ∧ delay ≠ 0 ∧
        ∀ op ∈ ys, op.slots = 0 := by
  have hlt := slotSum_lt_maxCount h
  have hmem : (∃ a ∈ (ofOperations ops).timeline.actions,
      a.index = (ofOperations ops).segmentCount) ↔
        clip (slotSum ops) ∈ (Timeline.ofOperations ops).indices := by
    rw [segmentCount_eq h]
    exact List.mem_map.symm
  rw [hmem, mem_indices_ofOperations, ← slotSum_mem_marks_iff]
  constructor
  · rintro ⟨m, hm, e⟩
    have hle := le_slotSum_of_mem_marks hm
    have e := congrArg UInt64.toNat e
    rw [toNat_clip_of_le (by omega), toNat_clip_of_le (by omega)] at e
    exact e ▸ hm
  · intro hm
    exact ⟨slotSum ops, hm, rfl⟩

theorem code_eq_none_of_end {a : SegmentAction}
    (ha : a ∈ (ofOperations ops).timeline.actions)
    (hend : a.index = (ofOperations ops).segmentCount) : a.code = none := by
  have hlt := slotSum_lt_maxCount h
  have hnodup : (Timeline.ofOperations ops).indices.Nodup :=
    (trail_ofOperations ops).nodup (by rw [toNat_clip]; omega)
  have hcode : ((Timeline.ofOperations ops).lookup a.index).code? = a.code := by
    rw [code?_lookup, get?_of_mem hnodup ha]
    rfl
  have hnone : codesAt ops a.index.toNat = [] := by
    rw [hend, toNat_segmentCount_eq h]
    exact codesAt_eq_nil (Nat.le_refl _)
  rw [← hcode, code?_lookup_ofOperations hlt.le, hnone]
  rfl

end

/-- **Nothing is lost, doubled or out of reach.**  As long as the nominal length can be counted, the
treatments of the listed segments hold the codes of all failures in order; no action is past the
segment after the last; that one is held back exactly if a stall is left over, and is never failed;
and the delays add up. -/
theorem events_within_reach (ops : List Operation)
    (h : slotSum ops * segmentSeconds ≤ maxCount) (length : SegmentLength) :
    let s := ofOperations ops
    let n := s.segmentCount.toNat
    let treatment := fun i : Nat => s.timeline.resolve (UInt64.ofNat i) length
    (List.range n).filterMap (fun i => (treatment i).code?) = codes ops ∧
      (∀ a ∈ s.timeline.actions, a.index ≤ s.segmentCount) ∧
      ((∃ a ∈ s.timeline.actions, a.index = s.segmentCount) ↔
        ∃ xs delay ys, ops = xs ++ .rebuffer delay :: ys ∧ delay ≠ 0 ∧
          ∀ op ∈ ys, op.slots = 0) ∧
      (∀ a ∈ s.timeline.actions, a.index = s.segmentCount → a.code = none) ∧
      (delayTotal ops ≤ maxCount →
        ∑ i ∈ Finset.range (n + 1), ((treatment i).delay?.getD 0).toNat = delayTotal ops) := by
  intro s n treatment
  have hn : n = slotSum ops := toNat_segmentCount_eq h
  rw [hn]
  exact ⟨filterMap_code?_resolve h length, fun a ha => index_le_segmentCount h ha,
    mem_end_iff h, fun a ha hend => code_eq_none_of_end h ha hend, sum_delay?_resolve h length⟩

/-- A startup, playback, a stall, a failure and a stall at the end: fifteen seconds of delay, of
which the last three are on the sixth segment of five. -/
theorem events_within_reach_of_five :
    let ops : List Operation :=
      [.startup 5, .playback 12, .rebuffer 7, .failure 404, .rebuffer 3]
    let treatment := fun i : Nat =>
      (ofOperations ops).timeline.resolve (UInt64.ofNat i) .nominal
    slotSum ops * segmentSeconds ≤ maxCount ∧ delayTotal ops ≤ maxCount ∧
      (List.range 5).filterMap (fun i => (treatment i).code?) = [404] ∧
      ∑ i ∈ Finset.range 6, ((treatment i).delay?.getD 0).toNat = 15 := by
  intro ops treatment
  have h : slotSum ops * segmentSeconds ≤ maxCount := by decide
  have htotal : delayTotal ops ≤ maxCount := by decide
  have hcount : (ofOperations ops).segmentCount.toNat = 5 := by decide
  obtain ⟨hcodes, -, -, -, hdelays⟩ := events_within_reach ops h .nominal
  rw [hcount] at hcodes hdelays
  exact ⟨h, htotal, hcodes, hdelays htotal⟩

end StreamRehearsal.Scenario
