import Mathlib.Order.Nat
import StreamRehearsal.Count

/-! # Quotients rounded up

* `eq_ceilDiv_iff` says which multiple the quotient leads to: the first that is not below the
  dividend.
* `ceilDiv_ceilDiv` says that rounding up twice is rounding up once, and `ceilDiv_mul_lt` how far
  a product with the quotient goes beyond the dividend.
* `Checked` holds arithmetic in 64 bits that has no result where a step would leave the range or
  divide by zero.  `Checked.ceilDiv?_eq_some` is what it gives for quotients: with a divisor that is
  not zero, no step fails, and the result is the exact one. -/

namespace StreamRehearsal

theorem le_ceilDiv_mul (a : Nat) {b : Nat} (hb : 0 < b) : a ≤ ceilDiv a b * b :=
  (ceilDiv_le_iff hb).1 (Nat.le_refl _)

/-- The multiple of `b` that `a` is rounded up to is less than `b` away. -/
theorem ceilDiv_mul_lt (a : Nat) {b : Nat} (hb : 0 < b) : ceilDiv a b * b < a + b := by
  have hle : ceilDiv a b * b ≤ a + (b - 1) := Nat.div_mul_le_self _ b
  omega

theorem ceilDiv_le_ceilDiv {a a' : Nat} (h : a ≤ a') {b : Nat} (hb : 0 < b) :
    ceilDiv a b ≤ ceilDiv a' b :=
  (ceilDiv_le_iff hb).2 (h.trans (le_ceilDiv_mul a' hb))

theorem ceilDiv_le_self (a : Nat) {b : Nat} (hb : 0 < b) : ceilDiv a b ≤ a :=
  (ceilDiv_le_iff hb).2 (Nat.le_mul_of_pos_right a hb)

/-- Rounding up twice is rounding up once. -/
theorem ceilDiv_ceilDiv (a : Nat) {b c : Nat} (hb : 0 < b) (hc : 0 < c) :
    ceilDiv (ceilDiv a b) c = ceilDiv a (b * c) := by
  refine eq_of_forall_ge_iff fun k => ?_
  rw [ceilDiv_le_iff hc, ceilDiv_le_iff hb, ceilDiv_le_iff (Nat.mul_pos hb hc), Nat.mul_assoc,
    Nat.mul_comm c b]

theorem ceilDiv_mul_mul_right (a : Nat) {b c : Nat} (hb : 0 < b) (hc : 0 < c) :
    ceilDiv (a * c) (b * c) = ceilDiv a b := by
  refine eq_of_forall_ge_iff fun k => ?_
  rw [ceilDiv_le_iff hb, ceilDiv_le_iff (Nat.mul_pos hb hc), ← Nat.mul_assoc]
  exact Nat.mul_le_mul_right_iff hc

/-- The quotient rounded up is the one number whose multiple reaches the dividend while that of its
predecessor does not. -/
theorem eq_ceilDiv_iff {a b k : Nat} (hb : 0 < b) :
    k = ceilDiv a b ↔ a ≤ k * b ∧ (k = 0 ∨ (k - 1) * b < a) := by
  have hreach : ceilDiv a b ≤ k ↔ a ≤ k * b := ceilDiv_le_iff hb
  cases k with
  | zero =>
      rw [← hreach]
      omega
  | succ k =>
      have hshort : ceilDiv a b ≤ k ↔ a ≤ k * b := ceilDiv_le_iff hb
      rw [← hreach, Nat.add_sub_cancel, ← Nat.not_le, ← hshort]
      omega

/-- Rounding up is one more than rounding down, unless nothing remains. -/
theorem ceilDiv_eq_div_add (a : Nat) {b : Nat} (hb : 0 < b) :
    ceilDiv a b = a / b + if a % b = 0 then 0 else 1 := by
  have hsplit : a / b * b + a % b = a := Nat.div_add_mod' a b
  have hrest : a % b < b := Nat.mod_lt a hb
  refine ((eq_ceilDiv_iff hb).2 ?_).symm
  split
  next h =>
    rw [Nat.add_zero]
    refine ⟨by omega, ?_⟩
    rcases Nat.eq_zero_or_pos (a / b) with hq | hq
    · exact .inl hq
    · have hle : b ≤ a / b * b := Nat.le_mul_of_pos_left b hq
      right
      rw [Nat.sub_mul]
      omega
  next h =>
    rw [Nat.add_sub_cancel, Nat.succ_mul]
    omega

namespace Checked

/-- The sum of two counts, unless it is too large for a count. -/
def add? (a b : UInt64) : Option UInt64 :=
  if a.toNat + b.toNat ≤ maxCount then some (a + b) else none

/-- The product of two counts, unless it is too large for a count. -/
def mul? (a b : UInt64) : Option UInt64 :=
  if a.toNat * b.toNat ≤ maxCount then some (a * b) else none

/-- The quotient rounded up, from the quotient rounded down and what remains. -/
def ceilDiv? (a b : UInt64) : Option UInt64 :=
  if b = 0 then none else if a % b = 0 then some (a / b) else add? (a / b) 1

theorem add?_eq_some {a b : UInt64} (h : a.toNat + b.toNat ≤ maxCount) :
    add? a b = some (UInt64.ofNat (a.toNat + b.toNat)) := by
  have hsum : a + b = UInt64.ofNat (a.toNat + b.toNat) := by
    rw [UInt64.ofNat_add, UInt64.ofNat_toNat, UInt64.ofNat_toNat]
  rw [add?, if_pos h, hsum]

theorem mul?_eq_some {a b : UInt64} (h : a.toNat * b.toNat ≤ maxCount) :
    mul? a b = some (UInt64.ofNat (a.toNat * b.toNat)) := by
  have hproduct : a * b = UInt64.ofNat (a.toNat * b.toNat) := by
    rw [UInt64.ofNat_mul, UInt64.ofNat_toNat, UInt64.ofNat_toNat]
  rw [mul?, if_pos h, hproduct]

/-- **No step of a division that rounds up can fail**, unless the divisor is zero. -/
theorem ceilDiv?_eq_some (a : UInt64) {b : UInt64} (hb : 0 < b.toNat) :
    ceilDiv? a b = some (UInt64.ofNat (ceilDiv a.toNat b.toNat)) := by
  have hne : b ≠ 0 := by
    rintro rfl
    exact absurd hb (by decide)
  have hrest : a % b = 0 ↔ a.toNat % b.toNat = 0 := by
    rw [← UInt64.toNat_inj, UInt64.toNat_mod, UInt64.toNat_zero]
  have hup := ceilDiv_eq_div_add a.toNat hb
  rw [ceilDiv?, if_neg hne]
  by_cases h : a.toNat % b.toNat = 0
  · rw [if_pos (hrest.2 h), hup, if_pos h, Nat.add_zero, ← UInt64.toNat_div, UInt64.ofNat_toNat]
  · -- the sum is the quotient rounded up, which is no larger than the dividend
    have hfits : (a / b).toNat + (1 : UInt64).toNat ≤ maxCount := by
      have hle := (ceilDiv_le_self a.toNat hb).trans (toNat_le_maxCount a)
      rwa [hup, if_neg h, ← UInt64.toNat_div] at hle
    rw [if_neg fun e => h (hrest.1 e), add?_eq_some hfits, hup, if_neg h, UInt64.toNat_div]
    rfl

end Checked

end StreamRehearsal
