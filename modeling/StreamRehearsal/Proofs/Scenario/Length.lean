import StreamRehearsal.Proofs.Timeline.Cursor
import StreamRehearsal.Scenario.Basic

/-! # Nominal length and the timeline

The timeline counts in segments and the nominal length in seconds, and both stop at the same number.
The length stops first, so the two agree only about segments that start within `maxCount` seconds.

* `toNat_totalLength` and `toNat_segmentCount_ofOperations` give the length and the number of listed
  segments in exact numbers.  Nothing is lost between the two (`segmentCount_mul_segmentSeconds`).
* `isConsistent_compile_iff` says which scenario strings are consistent: those whose marks all start
  within `maxCount` seconds.  A mark just past that bound is enough to break consistency. -/

namespace StreamRehearsal.Scenario

open Schedule

/-! ### The length in exact numbers -/

theorem toNat_footprint (op : Operation) :
    (footprint op).toNat = min (op.slots * segmentSeconds) maxCount :=
  toNat_clip _

theorem totalLength_concat (xs : List Operation) (op : Operation) :
    totalLength (xs ++ [op]) = clip ((totalLength xs).toNat + (footprint op).toNat) := by
  simp [totalLength]

theorem toNat_totalLength (ops : List Operation) :
    (totalLength ops).toNat = min (slotSum ops * segmentSeconds) maxCount := by
  induction ops using List.reverseRecOn with
  | nil => rfl
  | append_singleton xs op ih =>
      rw [totalLength_concat, toNat_clip, ih, toNat_footprint, slotSum_concat, Nat.add_mul]
      omega

/-- The order of operations does not matter to their length, however long they are. -/
theorem totalLength_perm {xs ys : List Operation} (h : xs.Perm ys) :
    totalLength xs = totalLength ys := by
  apply UInt64.toNat_inj.1
  have hsum : slotSum xs = slotSum ys := (h.map Operation.slots).sum_eq
  rw [toNat_totalLength, toNat_totalLength, hsum]

/-- The longest length that can be counted is a number of whole segments, so clipping does not cut
one short. -/
theorem segmentSeconds_dvd_totalLength (ops : List Operation) :
    segmentSeconds ∣ (totalLength ops).toNat := by
  have hlimit : segmentSeconds ∣ maxCount := by decide
  rw [toNat_totalLength]
  rcases Nat.le_total (slotSum ops * segmentSeconds) maxCount with h | h
  · rw [Nat.min_eq_left h]
    exact Nat.dvd_mul_left segmentSeconds _
  · rwa [Nat.min_eq_right h]

theorem toNat_segmentCount (s : Scenario) :
    s.segmentCount.toNat = s.length.toNat / segmentSeconds := by
  have := toNat_le_maxCount s.length
  exact toNat_ofNat_of_le ((Nat.div_le_self _ _).trans this)

theorem toNat_segmentCount_ofOperations (ops : List Operation) :
    (ofOperations ops).segmentCount.toNat = min (slotSum ops) (maxCount / segmentSeconds) := by
  have hlen : (ofOperations ops).length.toNat = min (slotSum ops * segmentSeconds) maxCount :=
    toNat_totalLength ops
  rw [toNat_segmentCount, hlen]
  simp only [segmentSeconds, maxCount]
  omega

theorem segmentCount_mul_segmentSeconds (ops : List Operation) :
    (ofOperations ops).segmentCount.toNat * segmentSeconds = (ofOperations ops).length.toNat := by
  rw [toNat_segmentCount]
  exact Nat.div_mul_cancel (segmentSeconds_dvd_totalLength ops)

/-! ### Consistency -/

instance : Std.LawfulOrderSup UInt64 where
  max_le_iff a b c := by
    show (if a ≤ b then b else a) ≤ c ↔ a ≤ c ∧ b ≤ c
    split
    next h => exact ⟨fun hb => ⟨UInt64.le_trans h hb, hb⟩, fun hc => hc.2⟩
    next h =>
      have hba : b ≤ a := (UInt64.le_total a b).resolve_left h
      exact ⟨fun ha => ⟨ha, UInt64.le_trans hba ha⟩, fun hc => hc.1⟩

theorem isConsistent_iff (s : Scenario) :
    s.isConsistent = true ↔ ∀ i ∈ s.timeline.indices, i ≤ s.segmentCount := by
  unfold isConsistent Timeline.maxIndex?
  cases h : (s.timeline.actions.map SegmentAction.index).max? with
  | none =>
      rw [List.max?_eq_none_iff] at h
      simp [Timeline.indices, h]
  | some index =>
      rw [decide_eq_true_iff]
      exact List.max?_le_iff h

theorem isConsistent_ofOperations_iff (ops : List Operation) :
    (ofOperations ops).isConsistent = true ↔
      ∀ m ∈ marks ops, m * segmentSeconds ≤ maxCount := by
  have hbound : ∀ m ∈ marks ops,
      (clip m ≤ (ofOperations ops).segmentCount ↔ m * segmentSeconds ≤ maxCount) := by
    intro m hm
    have := le_slotSum_of_mem_marks hm
    rw [UInt64.le_iff_toNat_le, toNat_clip, toNat_segmentCount_ofOperations]
    simp only [segmentSeconds, maxCount]
    omega
  have hindices : ∀ i, i ∈ (ofOperations ops).timeline.indices ↔ ∃ m ∈ marks ops, clip m = i :=
    Timeline.mem_indices_ofOperations ops
  simp only [isConsistent_iff, hindices, forall_exists_index, and_imp]
  constructor
  · intro h m hm
    exact (hbound m hm).1 (h _ m hm rfl)
  · rintro h _ m hm rfl
    exact (hbound m hm).2 (h m hm)

/-- **Which scenarios are consistent.**  A scenario string is consistent if no action is past the
segment after the last, and that is so exactly if every mark is on a segment that starts within the
longest length that can be counted. -/
theorem isConsistent_compile_iff (path : String) :
    ((compile path).isConsistent = true ↔
        ∀ a ∈ (compile path).timeline.actions,
          a.index.toNat ≤ (compile path).length.toNat / segmentSeconds) ∧
      ((compile path).isConsistent = true ↔
        ∀ m ∈ marks (Token.operations path), m * segmentSeconds ≤ maxCount) := by
  refine ⟨?_, isConsistent_ofOperations_iff (Token.operations path)⟩
  rw [isConsistent_iff, ← toNat_segmentCount]
  unfold Timeline.indices
  simp only [List.mem_map, forall_exists_index, and_imp, forall_apply_eq_imp_iff₂,
    UInt64.le_iff_toNat_le]

/-- The longest playback fills the whole length that can be counted; a stall one segment later is
past the end of the playlist. -/
theorem not_isConsistent_compile_of_longest_playback :
    (compile "p18446744073709551615-p5-r1").timeline.maxIndex? = some 3689348814741910324 ∧
      (compile "p18446744073709551615-p5-r1").segmentCount = 3689348814741910323 ∧
      (compile "p18446744073709551615-p5-r1").isConsistent = false := by
  decide

end StreamRehearsal.Scenario
