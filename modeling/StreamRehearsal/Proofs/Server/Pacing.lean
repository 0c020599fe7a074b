import StreamRehearsal.Proofs.Count.Quotient
import StreamRehearsal.Server.Pacing

/-! # Waits in whole milliseconds

The wait before each piece of a throttled file is rounded up twice, to nanoseconds and then to
milliseconds, and limited twice, by the largest count and by the longest wait.

`Pacing.pause_eq` is the wait in one step: the delay in milliseconds, divided among the pieces,
rounded up once and limited by the longest wait alone. -/

namespace StreamRehearsal.Pacing

theorem pieceCount_eq_zero_iff {size : Nat} : pieceCount size = 0 ↔ size = 0 := by
  rw [← Nat.le_zero, pieceCount, ceilDiv_le_iff (by decide), Nat.zero_mul, Nat.le_zero]

theorem pieceCount_pos {size : Nat} (h : 0 < size) : 0 < pieceCount size :=
  Nat.pos_of_ne_zero fun e => Nat.ne_of_gt h (pieceCount_eq_zero_iff.1 e)

/-- The largest count of nanoseconds is more than the longest wait. -/
theorem millis_min (n : Nat) : millis (min n maxCount) = millis n := by
  rcases Nat.le_total n maxCount with h | h
  · rw [Nat.min_eq_left h]
  · have hlimit : longestWait ≤ ceilDiv maxCount 1000000 := by decide
    have hn : ceilDiv maxCount 1000000 ≤ ceilDiv n 1000000 := ceilDiv_le_ceilDiv h (by decide)
    unfold millis
    rw [Nat.min_eq_right h, Nat.min_eq_right hlimit, Nat.min_eq_right (hlimit.trans hn)]

/-- **The wait before each piece**: the delay in milliseconds is divided among the pieces and
rounded up, and no wait is longer than the longest. -/
theorem pause_eq (size : Nat) (secs : UInt64) :
    pause size secs =
      min (ceilDiv (1000 * secs.toNat) (max (pieceCount size) 1)) longestWait := by
  have hpieces : 0 < max (pieceCount size) 1 := by omega
  have hround : ceilDiv (ceilDiv (nanos secs) (max (pieceCount size) 1)) 1000000 =
      ceilDiv (1000 * secs.toNat) (max (pieceCount size) 1) := by
    rw [ceilDiv_ceilDiv _ hpieces (by decide), nanos_eq,
      ceilDiv_mul_mul_right _ hpieces (by decide)]
  rw [pause, interval, millis_min, millis, hround]

theorem pause_of_pos {size : Nat} (h : 0 < size) (secs : UInt64) :
    pause size secs = min (ceilDiv (1000 * secs.toNat) (pieceCount size)) longestWait := by
  rw [pause_eq, Nat.max_eq_left (pieceCount_pos h)]

end StreamRehearsal.Pacing
