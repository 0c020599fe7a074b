import StreamRehearsal.Count

/-! # Numbers in documents

Numbers are kept as they are written.  Documents hold counts and indices, and what else they hold
matters only as far as it is finite in 64-bit floating-point arithmetic.

* `Number` keeps apart the numbers that can stand for a count or an index from all others.
* `Number.roundsToFinite` tells whether a decimal number rounds to a finite one.
* `Number.isFinite` tells whether the product of leading digits and a power of ten is finite, where
  both are rounded before they are multiplied.  Just below the bound it gives up some numbers that
  round to finite ones, but it gives up no count (`isFinite_natural_of_le`). -/

namespace StreamRehearsal

/-- A number as it is written. -/
inductive Number where
  /-- Digits alone. -/
  | natural (n : Nat)
  /-- Anything else: `mantissa * 10 ^ exponent`, or its negative. -/
  | other (negative : Bool) (mantissa : Nat) (exponent : Int)
  deriving DecidableEq, Repr

namespace Number

/-- The least number that does not round to a finite 64-bit floating-point number. -/
def floatBound : Nat := Nat.pow 2 1024 - Nat.pow 2 970

/-! ### Exact numbers -/

/-- The number of decimal digits of a number. -/
def digitCount (n : Nat) : Nat := (Nat.toDigits 10 n).length

/-- Whether `mantissa * 10 ^ exponent` rounds to a finite number.  The number of digits decides,
except for numbers with 309 digits before the point. -/
def roundsToFinite (mantissa : Nat) (exponent : Int) : Bool :=
  let digits := digitCount mantissa + exponent
  if mantissa = 0 ∨ digits ≤ 308 then true
  else if 309 < digits then false
  else if 0 ≤ exponent then mantissa * Nat.pow 10 exponent.toNat < floatBound
  else mantissa < floatBound * Nat.pow 10 (-exponent).toNat

/-! ### Products -/

/-- The nearest number with 53 significant binary digits; of two that are equally near, the even
one. -/
def round53 (n : Nat) : Nat :=
  let unit := Nat.pow 2 (n.log2 - 52)
  let low := n / unit
  let rest := 2 * (n % unit)
  if rest < unit ∨ rest = unit ∧ low % 2 = 0 then low * unit else (low + 1) * unit

/-- The leading digits of a number that fit a 64-bit count, with a scale that has grown by one for
each digit that is left out. -/
def leading (n : Nat) (scale : Int) : Nat × Int :=
  if n ≤ maxCount then (n, scale) else leading (n / 10) (scale + 1)
termination_by n
decreasing_by omega

theorem leading_of_le {n : Nat} (h : n ≤ maxCount) (scale : Int) : leading n scale = (n, scale) := by
  rw [leading, if_pos h]

/-- The largest power of ten that is finite has this exponent. -/
def largestPower : Int := 308

/-- Whether leading digits times a power of ten are finite, both rounded before they are
multiplied.  Quotients by powers of ten always are. -/
def productIsFinite (mantissa : Nat) (exponent : Int) : Bool :=
  let (head, scale) := leading mantissa exponent
  if head = 0 ∨ scale ≤ 0 then true
  else if largestPower < scale then false
  else round53 head * round53 (Nat.pow 10 scale.toNat) < floatBound

/-- Whether a number is finite when it is worked out from its leading digits. -/
def isFinite : Number → Bool
  | natural n => productIsFinite n 0
  | other _ mantissa exponent => productIsFinite mantissa exponent

@[simp] theorem isFinite_natural_of_le {n : Nat} (h : n ≤ maxCount) :
    (natural n).isFinite = true := by
  simp [isFinite, productIsFinite, leading_of_le h]

end Number

end StreamRehearsal
