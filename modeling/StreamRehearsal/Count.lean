/-! # Counts

Seconds and segment indices are 64-bit counts.  Arithmetic on them never wraps around: a result
that does not fit is clipped to the largest count.

* `clip n` is the count nearest to the natural number `n`; `toNat_clip` gives its value, and
  `clip_toNat` that a count is its own clipping.
* `ceilDiv a b` is the quotient rounded up: the least `k` with `a ≤ k * b` (`ceilDiv_le_iff`). -/

namespace StreamRehearsal

/-- The largest 64-bit count. -/
def maxCount : Nat := 0xffffffffffffffff

/-- The count nearest to `n`: the number itself, or the largest count if it does not fit. -/
def clip (n : Nat) : UInt64 := UInt64.ofNatClamp n

@[simp] theorem toNat_clip (n : Nat) : (clip n).toNat = min n maxCount := by
  unfold clip
  by_cases h : n < UInt64.size
  · rw [UInt64.toNat_ofNatClamp_of_lt h]
    simp only [UInt64.size, maxCount] at *
    omega
  · rw [UInt64.toNat_ofNatClamp_of_le (Nat.le_of_not_lt h)]
    simp only [UInt64.size, maxCount] at *
    omega

theorem toNat_le_maxCount (n : UInt64) : n.toNat ≤ maxCount := by
  have := n.toNat_lt
  simp only [maxCount]
  omega

@[simp] theorem clip_toNat (n : UInt64) : clip n.toNat = n := by
  apply UInt64.toNat_inj.1
  have := toNat_le_maxCount n
  simp only [toNat_clip]
  omega

@[simp] theorem clip_zero : clip 0 = 0 := rfl

@[simp] theorem clip_min (n : Nat) : clip (min n maxCount) = clip n := by
  rw [← toNat_clip, clip_toNat]

/-- A sum is clipped once, however often it is clipped on the way. -/
theorem clip_min_add (a b : Nat) : clip (min a maxCount + b) = clip (a + b) := by
  apply UInt64.toNat_inj.1
  simp only [toNat_clip]
  omega

theorem toNat_clip_of_le {n : Nat} (h : n ≤ maxCount) : (clip n).toNat = n := by
  simp only [toNat_clip]
  omega

theorem toNat_ofNat_of_le {n : Nat} (h : n ≤ maxCount) : (UInt64.ofNat n).toNat = n := by
  rw [UInt64.toNat_ofNat']
  simp only [maxCount] at h
  omega

/-- The quotient of `a` and `b`, rounded up. -/
def ceilDiv (a b : Nat) : Nat := (a + (b - 1)) / b

theorem ceilDiv_le_iff {a b k : Nat} (hb : 0 < b) : ceilDiv a b ≤ k ↔ a ≤ k * b := by
  unfold ceilDiv
  rw [← Nat.lt_succ_iff, Nat.div_lt_iff_lt_mul hb, Nat.succ_mul]
  omega

@[simp] theorem ceilDiv_zero (b : Nat) : ceilDiv 0 b = 0 := by
  unfold ceilDiv
  cases b with
  | zero => rfl
  | succ b => simp

theorem ceilDiv_mul (k : Nat) {b : Nat} (hb : 0 < b) : ceilDiv (k * b) b = k := by
  apply Nat.le_antisymm
  · exact (ceilDiv_le_iff hb).2 (Nat.le_refl _)
  · have := (ceilDiv_le_iff (a := k * b) hb).1 (Nat.le_refl _)
    exact Nat.le_of_mul_le_mul_right this hb

end StreamRehearsal
