import Mathlib.Algebra.GroupWithZero.Nat
import StreamRehearsal.Scenario.Operation
import StreamRehearsal.Scenario.Treatment

/-! # Schedules

A schedule says in exact numbers, and without a cursor that is clipped, what a list of operations
does to each segment.

* The position of an operation is the number of segments that the operations before it take up;
  `Schedule.placed` pairs every operation with its position.
* `Schedule.delayAt ops index` is the sum of the delays that fall on a segment.  Every startup
  falls on segment zero, and a rebuffer on the segment at its position.
* `Schedule.codesAt ops index` are the status codes of the failures at a segment's position.
* `Schedule.treatmentAt ops index` is the treatment that both ask for.
* `Schedule.codes ops` and `Schedule.delayTotal ops` are what falls on all segments together.
* `Schedule.marks ops` are the segments that the operations leave a mark on, one for each operation
  that leaves one.

One more operation at the end stands where the others end; the lemmas `placed_concat`,
`delayAt_concat`, `codesAt_concat` and `marks_concat` say what it adds. -/

namespace StreamRehearsal.Schedule

/-- The number of segments that a list of operations takes up. -/
def slotSum (ops : List Operation) : Nat := (ops.map Operation.slots).sum

@[simp] theorem slotSum_nil : slotSum [] = 0 := rfl

@[simp] theorem slotSum_cons (op : Operation) (ops : List Operation) :
    slotSum (op :: ops) = op.slots + slotSum ops := by
  simp [slotSum]

@[simp] theorem slotSum_append (xs ys : List Operation) :
    slotSum (xs ++ ys) = slotSum xs + slotSum ys := by
  simp [slotSum]

/-! ### Positions -/

/-- Every operation with its position, for operations that start at a position. -/
def placedFrom : Nat → List Operation → List (Nat × Operation)
  | _, [] => []
  | position, op :: ops => (position, op) :: placedFrom (position + op.slots) ops

/-- Every operation with its position. -/
def placed (ops : List Operation) : List (Nat × Operation) := placedFrom 0 ops

@[simp] theorem placedFrom_nil (position : Nat) : placedFrom position [] = [] := rfl

@[simp] theorem placedFrom_cons (position : Nat) (op : Operation) (ops : List Operation) :
    placedFrom position (op :: ops) =
      (position, op) :: placedFrom (position + op.slots) ops := rfl

theorem placedFrom_append (position : Nat) (xs ys : List Operation) :
    placedFrom position (xs ++ ys) =
      placedFrom position xs ++ placedFrom (position + slotSum xs) ys := by
  induction xs generalizing position with
  | nil => simp
  | cons op xs ih => simp [ih, Nat.add_assoc]

/-- Positions are sums of slots: the operation after `xs` stands where `xs` ends. -/
theorem placed_append_cons (xs : List Operation) (op : Operation) (ys : List Operation) :
    placed (xs ++ op :: ys) =
      placed xs ++ (slotSum xs, op) :: placedFrom (slotSum xs + op.slots) ys := by
  simp [placed, placedFrom_append]

theorem placed_concat (xs : List Operation) (op : Operation) :
    placed (xs ++ [op]) = placed xs ++ [(slotSum xs, op)] := by
  simp [placed_append_cons]

@[simp] theorem length_placed (ops : List Operation) : (placed ops).length = ops.length := by
  suffices h : ∀ position, (placedFrom position ops).length = ops.length from h 0
  induction ops with
  | nil => simp
  | cons op ops ih => simp [ih]

/-! ### What falls on a segment -/

/-- The delay that an operation at a position adds to a segment. -/
def delayShare (index : Nat) : Nat × Operation → Nat
  | (_, .startup delay) => if index = 0 then delay.toNat else 0
  | (position, .rebuffer delay) => if position = index then delay.toNat else 0
  | (_, .playback _) => 0
  | (_, .failure _) => 0

/-- The status code that an operation at a position gives a segment. -/
def codeShare (index : Nat) : Nat × Operation → Option UInt16
  | (position, .failure code) => if position = index then some code else none
  | _ => none

theorem codeShare_of_ne {position index : Nat} (h : position ≠ index) (op : Operation) :
    codeShare index (position, op) = none := by
  cases op with
  | startup delay => rfl
  | playback duration => rfl
  | rebuffer delay => rfl
  | failure code => exact if_neg h

/-- The seconds for which a segment is held back, as an exact sum. -/
def delayAt (ops : List Operation) (index : Nat) : Nat :=
  ((placed ops).map (delayShare index)).sum

/-- The status codes that a segment is failed with. -/
def codesAt (ops : List Operation) (index : Nat) : List UInt16 :=
  (placed ops).filterMap (codeShare index)

theorem filterMap_concat {α β : Type} (f : α → Option β) (xs : List α) (x : α) :
    (xs ++ [x]).filterMap f = xs.filterMap f ++ (f x).toList := by
  rw [List.filterMap_append, List.filterMap_cons]
  cases f x <;> rfl

theorem delayAt_concat (xs : List Operation) (op : Operation) (index : Nat) :
    delayAt (xs ++ [op]) index = delayAt xs index + delayShare index (slotSum xs, op) := by
  simp [delayAt, placed_concat]

theorem codesAt_concat (xs : List Operation) (op : Operation) (index : Nat) :
    codesAt (xs ++ [op]) index =
      codesAt xs index ++ (codeShare index (slotSum xs, op)).toList := by
  simp only [codesAt, placed_concat, filterMap_concat]

/-- A delay in seconds, unless it is zero. -/
def positiveDelay (secs : Nat) : Option UInt64 := if secs = 0 then none else some (clip secs)

@[simp] theorem positiveDelay_zero : positiveDelay 0 = none := rfl

theorem positiveDelay_of_pos {secs : Nat} (h : 0 < secs) :
    positiveDelay secs = some (clip secs) := by
  unfold positiveDelay
  rw [if_neg (by omega)]

theorem toNat_getD_positiveDelay (secs : Nat) :
    ((positiveDelay secs).getD 0).toNat = min secs maxCount := by
  cases secs with
  | zero => rfl
  | succ secs => simp [positiveDelay_of_pos]

theorem positiveDelay_ne_zero (secs : Nat) : positiveDelay secs ≠ some 0 := by
  intro h
  have hvalue := toNat_getD_positiveDelay secs
  rw [h] at hvalue
  obtain rfl : secs = 0 := by
    simp only [Option.getD_some, UInt64.toNat_zero, maxCount] at hvalue
    omega
  exact absurd h (by simp)

/-- The treatment of a segment. -/
def treatmentAt (ops : List Operation) (index : Nat) : Treatment :=
  Treatment.ofParts (positiveDelay (delayAt ops index)) (codesAt ops index).head?

/-! ### What falls on all segments together -/

/-- The status code of a failure. -/
def codeOf? : Operation → Option UInt16
  | .failure code => some code
  | _ => none

/-- The seconds for which an operation holds a segment back. -/
def delayOf : Operation → Nat
  | .startup delay => delay.toNat
  | .rebuffer delay => delay.toNat
  | .playback _ => 0
  | .failure _ => 0

/-- The status codes of all failures, in order. -/
def codes (ops : List Operation) : List UInt16 := ops.filterMap codeOf?

/-- The sum of all delays. -/
def delayTotal (ops : List Operation) : Nat := (ops.map delayOf).sum

theorem codes_concat (xs : List Operation) (op : Operation) :
    codes (xs ++ [op]) = codes xs ++ (codeOf? op).toList :=
  filterMap_concat codeOf? xs op

theorem delayTotal_concat (xs : List Operation) (op : Operation) :
    delayTotal (xs ++ [op]) = delayTotal xs + delayOf op := by
  simp [delayTotal]

/-! ### Marks -/

/-- The segment that an operation at a position leaves a mark on: playback leaves none, and a delay
of zero leaves none either. -/
def markOf? : Nat × Operation → Option Nat
  | (_, .startup delay) => if delay = 0 then none else some 0
  | (_, .playback _) => none
  | (position, .rebuffer delay) => if delay = 0 then none else some position
  | (position, .failure _) => some position

/-- A mark is on segment zero or at the position of its operation, which takes up one segment or is
a rebuffer. -/
theorem of_markOf?_eq_some {position m : Nat} {op : Operation}
    (h : markOf? (position, op) = some m) :
    (m = 0 ∨ m = position) ∧ (op.slots = 1 ∨ m = position ∧ ∃ delay, op = .rebuffer delay) := by
  cases op with
  | startup delay =>
    simp only [markOf?, Option.ite_none_left_eq_some, Option.some.injEq] at h
    exact ⟨Or.inl h.2.symm, Or.inl rfl⟩
  | playback duration => exact absurd h nofun
  | rebuffer delay =>
    simp only [markOf?, Option.ite_none_left_eq_some, Option.some.injEq] at h
    exact ⟨Or.inr h.2.symm, Or.inr ⟨h.2.symm, delay, rfl⟩⟩
  | failure code =>
    simp only [markOf?, Option.some.injEq] at h
    exact ⟨Or.inr h.symm, Or.inl rfl⟩

/-- Away from segment zero, only a startup leaves a mark on it. -/
theorem of_markOf?_eq_zero {position : Nat} {op : Operation}
    (h : markOf? (position, op) = some 0) (hp : position ≠ 0) :
    ∃ delay, op = .startup delay ∧ delay ≠ 0 := by
  cases op with
  | startup delay =>
    simp only [markOf?, Option.ite_none_left_eq_some] at h
    exact ⟨delay, rfl, h.1⟩
  | playback duration => simp [markOf?] at h
  | rebuffer delay =>
    simp only [markOf?, Option.ite_none_left_eq_some, Option.some.injEq] at h
    exact absurd h.2 hp
  | failure code =>
    simp only [markOf?, Option.some.injEq] at h
    exact absurd h hp

/-- The segments that operations leave a mark on. -/
def marks (ops : List Operation) : List Nat := (placed ops).filterMap markOf?

theorem marks_concat (xs : List Operation) (op : Operation) :
    marks (xs ++ [op]) = marks xs ++ (markOf? (slotSum xs, op)).toList := by
  simp only [marks, placed_concat, filterMap_concat]

end StreamRehearsal.Schedule
