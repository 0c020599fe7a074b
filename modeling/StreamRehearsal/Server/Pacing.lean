import StreamRehearsal.Count

/-! # Pacing

Files are sent in pieces, and a throttled file waits before each of them.

* `Pacing.pieces bytes` cuts a file into pieces of `pieceSize` bytes; the last may be shorter, and
  an empty file has none.
* `Pacing.interval size delay` is the least whole number of nanoseconds that, waited once for each
  piece, adds up to the delay; it is clipped to the largest count.  An empty file is treated as if
  it had one piece.
* Waits end on whole milliseconds and none is longer than `longestWait`: `Pacing.millis`.

`Pacing.foldl_pieces` puts the pieces of a file together again, and `Pacing.wait_eq` gives the
milliseconds of a wait of whole seconds. -/

namespace StreamRehearsal.Pacing

/-- The number of bytes in a piece. -/
def pieceSize : Nat := 16384

/-- The number of pieces that a file of this size is cut into. -/
def pieceCount (size : Nat) : Nat := ceilDiv size pieceSize

/-- The pieces of a file, in order. -/
def pieces (bytes : ByteArray) : List ByteArray :=
  (List.range (pieceCount bytes.size)).map fun i =>
    bytes.extract (i * pieceSize) ((i + 1) * pieceSize)

theorem size_le_pieceCount_mul (size : Nat) : size ≤ pieceCount size * pieceSize :=
  (ceilDiv_le_iff (by decide)).1 (Nat.le_refl _)

/-- The first pieces, as many as one likes, are the beginning of the file. -/
theorem foldl_range_extract (bytes : ByteArray) (n : Nat) :
    ((List.range n).map fun i => bytes.extract (i * pieceSize) ((i + 1) * pieceSize)).foldl
        (· ++ ·) .empty =
      bytes.extract 0 (n * pieceSize) := by
  induction n with
  | zero => simp
  | succ n ih =>
    have hle : n * pieceSize ≤ (n + 1) * pieceSize := Nat.mul_le_mul_right _ (Nat.le_succ n)
    rw [List.range_succ, List.map_append, List.foldl_append, ih, List.map_singleton,
      List.foldl_cons, List.foldl_nil,
      ← ByteArray.extract_eq_extract_append_extract _ (Nat.zero_le _) hle]

/-- The pieces are the whole file. -/
theorem foldl_pieces (bytes : ByteArray) : (pieces bytes).foldl (· ++ ·) .empty = bytes := by
  have hsize := size_le_pieceCount_mul bytes.size
  rw [pieces, foldl_range_extract,
    ByteArray.extract_eq_extract_append_extract _ (Nat.zero_le _) hsize,
    ByteArray.extract_zero_size, ByteArray.extract_eq_empty_iff.2 (Nat.min_le_right _ _),
    ByteArray.append_empty]

/-- The wait before each piece, in nanoseconds, for a delay in nanoseconds. -/
def interval (size delay : Nat) : Nat :=
  min (ceilDiv delay (max (pieceCount size) 1)) maxCount

/-- The longest wait, thirty years in milliseconds. -/
def longestWait : Nat := 946080000000

/-- The milliseconds that a wait of this many nanoseconds takes. -/
def millis (nanos : Nat) : Nat := min (ceilDiv nanos 1000000) longestWait

/-- The nanoseconds in a number of seconds. -/
def nanos (secs : UInt64) : Nat := secs.toNat * 1000000000

/-- The milliseconds that a wait of this many seconds takes. -/
def wait (secs : UInt64) : Nat := millis (nanos secs)

theorem nanos_eq (secs : UInt64) : nanos secs = 1000 * secs.toNat * 1000000 := by
  unfold nanos
  omega

theorem wait_eq (secs : UInt64) : wait secs = min (1000 * secs.toNat) longestWait := by
  rw [wait, millis, nanos_eq, ceilDiv_mul _ (by decide)]

/-- The milliseconds before each piece of a file of this size that is spread over a delay in
seconds. -/
def pause (size : Nat) (secs : UInt64) : Nat := millis (interval size (nanos secs))

end StreamRehearsal.Pacing
