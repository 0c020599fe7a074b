import Mathlib.Algebra.Order.Floor.Semifield
import Mathlib.Data.Rat.Floor
import StreamRehearsal.Proofs.Count.Quotient
import StreamRehearsal.Server.Pacing

/-! # The least sufficient wait

The wait before each piece of a throttled file is the delay, divided among the pieces and rounded
up.  It is worked out in words: pieces are counted in 64 bits, and the delay in nanoseconds, which
may be more than a count can say, in 128.

* `ceilDiv_eq_ceil` ties the quotient rounded up to the quotient of rational numbers.
* `Wide` is a number of 128 bits, with arithmetic that has no result where a step would leave the
  range or divide by zero.
* `Span` is a length of time, to the nanosecond.
* `interval?` works the wait out step by step, and `exists_interval?` says that no step fails and
  that the result is `interval`.
* `interval_least_sufficient` says which wait this is. -/

namespace StreamRehearsal

theorem ceilDiv_eq_ceil (a : Nat) {b : Nat} (hb : 0 < b) : ceilDiv a b = ⌈(a : ℚ) / b⌉₊ := by
  have hpos : (0 : ℚ) < b := Nat.cast_pos.2 hb
  refine eq_of_forall_ge_iff fun k => ?_
  rw [ceilDiv_le_iff hb, Nat.ceil_le, div_le_iff₀ hpos]
  norm_cast

theorem isLeast_ceilDiv (a : Nat) {b : Nat} (hb : 0 < b) : IsLeast {k | a ≤ k * b} (ceilDiv a b) :=
  ⟨le_ceilDiv_mul a hb, fun _ hk => (ceilDiv_le_iff hb).2 hk⟩

/-! ### Wide words -/

/-- A number of 128 bits. -/
abbrev Wide := BitVec 128

namespace Wide

/-- A count, as a wide number. -/
def ofCount (n : UInt64) : Wide := BitVec.ofNat 128 n.toNat

/-- The sum of two wide numbers, unless it is too large. -/
def add? (a b : Wide) : Option Wide := if a.toNat + b.toNat < 2 ^ 128 then some (a + b) else none

/-- The product of two wide numbers, unless it is too large. -/
def mul? (a b : Wide) : Option Wide := if a.toNat * b.toNat < 2 ^ 128 then some (a * b) else none

/-- The quotient rounded up, from the quotient rounded down and what remains. -/
def ceilDiv? (a b : Wide) : Option Wide :=
  if b = 0 then none else if a % b = 0 then some (a / b) else add? (a / b) 1

@[simp] theorem toNat_ofCount (n : UInt64) : (ofCount n).toNat = n.toNat := by
  have hn := n.toNat_lt
  rw [ofCount, BitVec.toNat_ofNat]
  omega

theorem exists_add? {a b : Wide} (h : a.toNat + b.toNat < 2 ^ 128) :
    ∃ c, add? a b = some c ∧ c.toNat = a.toNat + b.toNat := by
  refine ⟨a + b, if_pos h, ?_⟩
  rw [BitVec.toNat_add, Nat.mod_eq_of_lt h]

theorem exists_mul? {a b : Wide} (h : a.toNat * b.toNat < 2 ^ 128) :
    ∃ c, mul? a b = some c ∧ c.toNat = a.toNat * b.toNat := by
  refine ⟨a * b, if_pos h, ?_⟩
  rw [BitVec.toNat_mul, Nat.mod_eq_of_lt h]

/-- Rounding up never leaves the range: the quotient is no larger than the dividend. -/
theorem exists_ceilDiv? (a : Wide) {b : Wide} (hb : 0 < b.toNat) :
    ∃ c, ceilDiv? a b = some c ∧ c.toNat = ceilDiv a.toNat b.toNat := by
  have hne : b ≠ 0 := by
    rintro rfl
    exact absurd hb (by decide)
  have hrest : a % b = 0 ↔ a.toNat % b.toNat = 0 := by
    rw [← BitVec.toNat_inj, BitVec.toNat_umod]
    rfl
  have hup := ceilDiv_eq_div_add a.toNat hb
  rw [ceilDiv?, if_neg hne]
  by_cases h : a.toNat % b.toNat = 0
  · rw [if_pos (hrest.2 h)]
    refine ⟨a / b, rfl, ?_⟩
    rw [hup, if_pos h, BitVec.toNat_udiv, Nat.add_zero]
  · have hquotient : (a / b).toNat + (1 : Wide).toNat = ceilDiv a.toNat b.toNat := by
      rw [hup, if_neg h, BitVec.toNat_udiv]
      rfl
    have hfits : (a / b).toNat + (1 : Wide).toNat < 2 ^ 128 := by
      rw [hquotient]
      exact (ceilDiv_le_self a.toNat hb).trans_lt a.isLt
    rw [if_neg fun e => h (hrest.1 e), ← hquotient]
    exact exists_add? hfits

end Wide

/-! ### Spans -/

/-- A length of time: whole seconds, and the nanoseconds beyond them. -/
structure Span where
  seconds : UInt64
  nanos : UInt32
  nanos_lt : nanos.toNat < 1000000000
  deriving DecidableEq, Repr

namespace Span

/-- The nanoseconds of a span. -/
def total (s : Span) : Nat := s.seconds.toNat * 1000000000 + s.nanos.toNat

/-- The span of a count of nanoseconds. -/
def ofCount (n : UInt64) : Span where
  seconds := UInt64.ofNat (n.toNat / 1000000000)
  nanos := UInt32.ofNat (n.toNat % 1000000000)
  nanos_lt := by
    rw [UInt32.toNat_ofNat']
    omega

@[simp] theorem total_ofCount (n : UInt64) : (ofCount n).total = n.toNat := by
  have hn := n.toNat_lt
  simp only [total, ofCount, UInt64.toNat_ofNat', UInt32.toNat_ofNat']
  omega

/-- The nanoseconds of a span, unless a step fails. -/
def total? (s : Span) : Option Wide :=
  (Wide.mul? (Wide.ofCount s.seconds) 1000000000).bind fun whole =>
    Wide.add? whole (Wide.ofCount s.nanos.toUInt64)

theorem exists_total? (s : Span) : ∃ n, s.total? = some n ∧ n.toNat = s.total := by
  have hseconds := s.seconds.toNat_lt
  have hnanos := s.nanos_lt
  have hproduct : (Wide.ofCount s.seconds).toNat * (1000000000 : Wide).toNat =
      s.seconds.toNat * 1000000000 := by
    rw [Wide.toNat_ofCount]
    rfl
  obtain ⟨whole, hmul, hwhole⟩ :=
    Wide.exists_mul? (a := Wide.ofCount s.seconds) (b := 1000000000) (by omega)
  have hsum : whole.toNat + (Wide.ofCount s.nanos.toUInt64).toNat = s.total := by
    rw [hwhole, hproduct, Wide.toNat_ofCount, UInt32.toNat_toUInt64, total]
  have hbound : s.total < 2 ^ 128 := by
    unfold total
    omega
  rw [total?, hmul, Option.bind_some, ← hsum]
  exact Wide.exists_add? (hsum ▸ hbound)

end Span

namespace Pacing

/-! ### The wait, in words -/

/-- The wait before each piece of a file of this size, unless a step fails.  A wait that is too long
for a count is clipped, which is no failure. -/
def interval? (size : UInt64) (delay : Span) : Option Span :=
  (Checked.ceilDiv? size (UInt64.ofNat pieceSize)).bind fun count =>
    delay.total?.bind fun nanos =>
      (Wide.ceilDiv? nanos (Wide.ofCount (max count 1))).map fun wait =>
        Span.ofCount (clip wait.toNat)

/-- **No step towards the wait can fail.** -/
theorem exists_interval? (size : UInt64) (delay : Span) :
    ∃ wait, interval? size delay = some wait ∧ wait.total = interval size.toNat delay.total := by
  have hcount : Checked.ceilDiv? size (UInt64.ofNat pieceSize) =
      some (UInt64.ofNat (pieceCount size.toNat)) :=
    Checked.ceilDiv?_eq_some size (by decide)
  have hfits : pieceCount size.toNat ≤ maxCount :=
    (ceilDiv_le_self _ (by decide)).trans (toNat_le_maxCount size)
  have hpieces : (Wide.ofCount (max (UInt64.ofNat (pieceCount size.toNat)) 1)).toNat =
      max (pieceCount size.toNat) 1 := by
    rw [Wide.toNat_ofCount, UInt64.toNat_max, toNat_ofNat_of_le hfits]
    rfl
  obtain ⟨nanos, htotal, hnanos⟩ := delay.exists_total?
  obtain ⟨wait, hdiv, hwait⟩ := Wide.exists_ceilDiv? nanos (by rw [hpieces]; omega)
  refine ⟨Span.ofCount (clip wait.toNat), ?_, ?_⟩
  · rw [interval?, hcount, htotal, Option.bind_some, Option.bind_some, hdiv, Option.map_some]
  · rw [Span.total_ofCount, toNat_clip, hwait, hnanos, hpieces, interval]

/-- **The wait before each piece is the least sufficient one.**  Waited once for each piece, and once
for an empty file, the least number of nanoseconds that adds up to the delay goes beyond it by less
than one nanosecond a piece; it is clipped only where it is no count.  No step on the way leaves the
range of its words or divides by zero. -/
theorem interval_least_sufficient (size : UInt64) (delay : Span) :
    let pieces := max 1 ⌈(size.toNat : ℚ) / pieceSize⌉₊
    ∃ least, IsLeast {wait | delay.total ≤ wait * pieces} least ∧
      interval size.toNat delay.total = min maxCount least ∧
      (∃ wait, interval? size delay = some wait ∧ wait.total = min maxCount least) ∧
      (least ≤ maxCount →
        delay.total ≤ pieces * interval size.toNat delay.total ∧
          pieces * interval size.toNat delay.total < delay.total + pieces) := by
  intro pieces
  have hpos : 0 < pieces := by omega
  have hpieces : max (pieceCount size.toNat) 1 = pieces := by
    rw [Nat.max_comm, pieceCount, ceilDiv_eq_ceil _ (by decide)]
  have hinterval : interval size.toNat delay.total = min maxCount (ceilDiv delay.total pieces) := by
    rw [interval, hpieces, Nat.min_comm]
  refine ⟨ceilDiv delay.total pieces, isLeast_ceilDiv delay.total hpos, hinterval, ?_,
    fun hfits => ?_⟩
  · rw [← hinterval]
    exact exists_interval? size delay
  · rw [hinterval, Nat.min_eq_right hfits, Nat.mul_comm]
    exact ⟨le_ceilDiv_mul delay.total hpos, ceilDiv_mul_lt delay.total hpos⟩

/-- A byte too many makes a fifth piece, which the delay is divided among, too; the longest delay is
clipped for one piece, but not for many. -/
example :
    interval 65537 10000000001 = 2000000001 ∧
      interval? 1 ⟨18446744073709551615, 999999999, by decide⟩ =
        some (Span.ofCount 18446744073709551615) ∧
      interval? 18446744073709551615 ⟨18446744073709551615, 999999999, by decide⟩ =
        some (Span.ofCount 16384000000000) := by
  decide

end Pacing

end StreamRehearsal
