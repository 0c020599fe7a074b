import Mathlib.Algebra.BigOperators.Group.Finset.Piecewise
import Mathlib.Algebra.Order.BigOperators.Group.Finset
import Mathlib.Algebra.Ring.Nat
import StreamRehearsal.Scenario.Schedule

/-! # Schedules over whole scenarios

What a schedule says about segments that the operations have not reached yet, and about all of them
together.

* Nothing is marked past the segments taken up (`le_slotSum_of_mem_marks`), and nothing is failed
  from there on (`codesAt_eq_nil`).
* A failure uses up its segment, so no segment is failed twice (`length_codesAt_le_one`).
* Segment by segment, the codes are all codes in order (`flatMap_codesAt`) and the delays add up to
  all delays (`sum_delayAt`).
* The segment that comes next is marked by a stall at the end and by nothing else
  (`slotSum_mem_marks_iff`). -/

namespace StreamRehearsal.Schedule

theorem slotSum_concat (xs : List Operation) (op : Operation) :
    slotSum (xs ++ [op]) = slotSum xs + op.slots := by
  simp

theorem le_slotSum_of_mem_marks {ops : List Operation} {m : Nat} (h : m ∈ marks ops) :
    m ≤ slotSum ops := by
  induction ops using List.reverseRecOn with
  | nil => simp [marks, placed] at h
  | append_singleton xs op ih =>
      rw [marks_concat, List.mem_append, Option.mem_toList] at h
      rw [slotSum_concat]
      rcases h with h | h
      · have := ih h
        omega
      · obtain ⟨hm | hm, -⟩ := of_markOf?_eq_some h <;> omega

/-- Segments that are not taken up yet are not failed. -/
theorem codesAt_eq_nil {ops : List Operation} {index : Nat} (h : slotSum ops ≤ index) :
    codesAt ops index = [] := by
  induction ops using List.reverseRecOn with
  | nil => rfl
  | append_singleton xs op ih =>
      rw [slotSum_concat] at h
      rw [codesAt_concat, ih (by omega)]
      cases op with
      | startup delay => rfl
      | playback duration => rfl
      | rebuffer delay => rfl
      | failure code =>
          rw [Operation.slots_failure] at h
          rw [codeShare_of_ne (by omega)]
          rfl

theorem length_codesAt_le_one (ops : List Operation) (index : Nat) :
    (codesAt ops index).length ≤ 1 := by
  induction ops using List.reverseRecOn with
  | nil => exact Nat.zero_le 1
  | append_singleton xs op ih =>
      rw [codesAt_concat]
      cases hs : codeShare index (slotSum xs, op) with
      | none => simpa using ih
      | some code =>
          -- the new failure is at `slotSum xs`, where no earlier one can be
          have hi : slotSum xs = index := by
            by_contra hne
            rw [codeShare_of_ne hne] at hs
            exact absurd hs nofun
          rw [codesAt_eq_nil (Nat.le_of_eq hi)]
          simp

theorem toList_head?_codesAt (ops : List Operation) (index : Nat) :
    (codesAt ops index).head?.toList = codesAt ops index := by
  have := length_codesAt_le_one ops index
  match h : codesAt ops index with
  | [] => rfl
  | [code] => rfl
  | c :: d :: rest =>
      rw [h] at this
      simp at this

/-! ### All segments together -/

/-- A new operation gives its code, if it has one, to one of the segments that it takes up. -/
theorem flatMap_codeShare (position : Nat) (op : Operation) :
    (List.range op.slots).flatMap
        (fun j => (codeShare (position + j) (position, op)).toList) =
      (codeOf? op).toList := by
  cases op with
  | startup delay => rfl
  | playback duration => simp [codeShare, codeOf?]
  | rebuffer delay => rfl
  | failure code => simp [codeShare, codeOf?, List.range_one]

theorem flatMap_codesAt (ops : List Operation) :
    (List.range (slotSum ops)).flatMap (codesAt ops) = codes ops := by
  induction ops using List.reverseRecOn with
  | nil => rfl
  | append_singleton xs op ih =>
      have hold : (List.range (slotSum xs)).flatMap (codesAt (xs ++ [op])) = codes xs := by
        rw [← ih]
        refine List.flatMap_congr fun i hi => ?_
        rw [List.mem_range] at hi
        rw [codesAt_concat, codeShare_of_ne (by omega)]
        exact List.append_nil _
      have hnew : (List.range op.slots).flatMap
          (fun j => codesAt (xs ++ [op]) (slotSum xs + j)) = (codeOf? op).toList := by
        rw [← flatMap_codeShare (slotSum xs) op]
        refine List.flatMap_congr fun j _ => ?_
        rw [codesAt_concat, codesAt_eq_nil (by omega)]
        exact List.nil_append _
      rw [slotSum_concat, List.range_add, List.flatMap_append, hold, List.flatMap_map, hnew,
        codes_concat]

/-- A new operation adds its delay to segment zero or to the segment at its position. -/
theorem sum_delayShare {position n : Nat} (h : position ≤ n) (op : Operation) :
    ∑ i ∈ Finset.range (n + 1), delayShare i (position, op) = delayOf op := by
  cases op with
  | startup delay => simp [delayShare, delayOf]
  | playback duration => simp [delayShare, delayOf]
  | rebuffer delay => simp [delayShare, delayOf, Nat.lt_succ_of_le h]
  | failure code => simp [delayShare, delayOf]

theorem sum_delayAt {ops : List Operation} {n : Nat} (h : slotSum ops ≤ n) :
    ∑ i ∈ Finset.range (n + 1), delayAt ops i = delayTotal ops := by
  induction ops using List.reverseRecOn with
  | nil => simp [delayAt, placed, delayTotal]
  | append_singleton xs op ih =>
      rw [slotSum_concat] at h
      simp only [delayAt_concat, Finset.sum_add_distrib]
      rw [ih (by omega), sum_delayShare (by omega), delayTotal_concat]

theorem delayAt_le_delayTotal (ops : List Operation) (index : Nat) :
    delayAt ops index ≤ delayTotal ops := by
  rw [← sum_delayAt (Nat.le_add_left (slotSum ops) index)]
  exact Finset.single_le_sum (fun _ _ => Nat.zero_le _) (Finset.mem_range.2 (by omega))

/-! ### The segment that comes next -/

theorem mem_marks_of_rebuffer (xs : List Operation) {delay : UInt64} (h : delay ≠ 0)
    (ys : List Operation) : slotSum xs ∈ marks (xs ++ .rebuffer delay :: ys) := by
  unfold marks
  rw [placed_append_cons, List.filterMap_append, List.mem_append]
  right
  simp [markOf?, h]

theorem slotSum_mem_marks_iff (ops : List Operation) :
    slotSum ops ∈ marks ops ↔
      ∃ xs delay ys, ops = xs ++ .rebuffer delay :: ys ∧ delay ≠ 0 ∧
        ∀ op ∈ ys, op.slots = 0 := by
  constructor
  · intro h
    induction ops using List.reverseRecOn with
    | nil => exact absurd h List.not_mem_nil
    | append_singleton xs op ih =>
        rw [slotSum_concat, marks_concat, List.mem_append, Option.mem_toList] at h
        rcases h with h | h
        · -- marked before: the new operation takes up no segment
          have hslots : op.slots = 0 := by
            have := le_slotSum_of_mem_marks h
            omega
          rw [hslots, Nat.add_zero] at h
          obtain ⟨xs', delay, ys, rfl, hd, hys⟩ := ih h
          refine ⟨xs', delay, ys ++ [op], by simp, hd, ?_⟩
          intro op' hop'
          rw [List.mem_append, List.mem_singleton] at hop'
          rcases hop' with hop' | rfl
          · exact hys op' hop'
          · exact hslots
        · obtain ⟨hm, hop⟩ := of_markOf?_eq_some h
          obtain ⟨delay, rfl⟩ : ∃ delay, op = .rebuffer delay := by
            rcases hop with hslots | ⟨-, hop⟩
            · omega
            · exact hop
          have hd : delay ≠ 0 := by
            rintro rfl
            exact absurd h nofun
          exact ⟨xs, delay, [], rfl, hd, fun _ h => absurd h List.not_mem_nil⟩
  · rintro ⟨xs, delay, ys, rfl, hd, hys⟩
    have hsum : slotSum ys = 0 := by
      unfold slotSum
      rw [List.sum_eq_zero_iff_forall_eq_nat]
      intro n hn
      obtain ⟨op, hop, rfl⟩ := List.mem_map.1 hn
      exact hys op hop
    have hall : slotSum (xs ++ .rebuffer delay :: ys) = slotSum xs := by
      simp [hsum]
    rw [hall]
    exact mem_marks_of_rebuffer xs hd ys

end StreamRehearsal.Schedule
