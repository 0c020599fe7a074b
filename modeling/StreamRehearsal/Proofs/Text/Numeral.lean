import StreamRehearsal.Proofs.Text.Decimal

/-! # Numerals

`Decimal.Numeral cs n` is the grammar of whole numbers: one or more digits, each of which makes the
number before it ten times as large and adds its own.

* The numerals of a number are its digits with any number of zeros in front (`numeral_iff_zeros`).
* `read?_eq_some_iff_numeral` says that reading accepts the numerals of numbers within the limit and
  nothing else.  `read?_eq_accumulate?` says the same of reading digit by digit, where the limit is
  checked after each of them: numbers only grow, so none that is read in the end was past the limit
  on the way. -/

namespace StreamRehearsal.Decimal

/-- One or more digits, most significant first, and the number that they stand for. -/
inductive Numeral : List Char → Nat → Prop where
  | digit {c : Char} (h : c.isDigit = true) : Numeral [c] (c.toNat - '0'.toNat)
  | concat {cs : List Char} {n : Nat} {c : Char} (hcs : Numeral cs n) (h : c.isDigit = true) :
      Numeral (cs ++ [c]) (10 * n + (c.toNat - '0'.toNat))

theorem numeral_iff {cs : List Char} {n : Nat} :
    Numeral cs n ↔ cs ≠ [] ∧ (∀ c ∈ cs, c.isDigit = true) ∧ value cs = n := by
  constructor
  · intro h
    induction h with
    | @digit c h =>
        refine ⟨List.cons_ne_nil c [], by simpa using h, ?_⟩
        exact (value_concat [] c).trans (Nat.zero_add _)
    | @concat cs n c _ h ih =>
        obtain ⟨-, hdigits, rfl⟩ := ih
        refine ⟨by simp, fun d hd => ?_, value_concat cs c⟩
        rcases List.mem_append.1 hd with hd | hd
        · exact hdigits d hd
        · rwa [List.mem_singleton.1 hd]
  · rintro ⟨hne, hdigits, rfl⟩
    induction cs using List.reverseRecOn with
    | nil => exact absurd rfl hne
    | append_singleton cs c ih =>
        have hc : c.isDigit = true := hdigits c (by simp)
        rw [value_concat]
        cases cs with
        | nil =>
            show Numeral [c] (10 * 0 + _)
            rw [Nat.mul_zero, Nat.zero_add]
            exact .digit hc
        | cons d cs =>
            exact .concat (ih (List.cons_ne_nil d cs) fun e he =>
              hdigits e (List.mem_append_left [c] he)) hc

theorem Numeral.head?_isDigit {cs : List Char} {n : Nat} (h : Numeral cs n) :
    ∀ c ∈ cs.head?, c.isDigit = true :=
  fun c hc => (numeral_iff.1 h).2.1 c (List.mem_of_head? hc)

theorem numeral_digits (n : Nat) : Numeral (digits n) n :=
  numeral_iff.2 ⟨digits_ne_nil n, fun _ => isDigit_of_mem_digits, value_digits n⟩

/-! ### Zeros in front -/

theorem value_zero_cons (cs : List Char) : value ('0' :: cs) = value cs := by
  unfold value
  rw [Nat.ofDigitChars_cons]
  rfl

theorem Numeral.zero_cons {cs : List Char} {n : Nat} (h : Numeral cs n) : Numeral ('0' :: cs) n := by
  obtain ⟨-, hdigits, rfl⟩ := numeral_iff.1 h
  exact numeral_iff.2
    ⟨List.cons_ne_nil '0' cs, List.forall_mem_cons.2 ⟨by decide, hdigits⟩, value_zero_cons cs⟩

/-- **The numerals of a number** are its digits after any number of zeros. -/
theorem numeral_iff_zeros {cs : List Char} {n : Nat} :
    Numeral cs n ↔ ∃ zeros, cs = List.replicate zeros '0' ++ digits n := by
  constructor
  · intro h
    obtain ⟨hne, hdigits, rfl⟩ := numeral_iff.1 h
    clear h
    induction cs with
    | nil => exact absurd rfl hne
    | cons c cs ih =>
        by_cases hzero : c = '0' ∧ cs ≠ []
        · -- a zero that could be left out
          obtain ⟨rfl, hcs⟩ := hzero
          obtain ⟨zeros, e⟩ := ih hcs fun d hd => hdigits d (List.mem_cons_of_mem '0' hd)
          refine ⟨zeros + 1, ?_⟩
          rw [value_zero_cons, List.replicate_succ, List.cons_append, ← e]
        · refine ⟨0, (digits_value hne hdigits fun e => ?_).symm⟩
          obtain rfl : c = '0' := Option.some.inj e
          by_contra hcs
          exact hzero ⟨rfl, fun e => hcs (congrArg _ e)⟩
  · rintro ⟨zeros, rfl⟩
    induction zeros with
    | zero => exact numeral_digits n
    | succ zeros ih => exact ih.zero_cons

/-! ### Reading -/

theorem read?_eq_some_iff_numeral {limit : Nat} {cs : List Char} {n : Nat} :
    read? limit cs = some n ↔ Numeral cs n ∧ n ≤ limit := by
  rw [read?_eq_some_iff, numeral_iff, and_assoc, and_assoc]

theorem count?_eq_some_iff {cs : List Char} {n : UInt64} :
    count? cs = some n ↔ Numeral cs n.toNat := by
  unfold count?
  rw [Option.map_eq_some_iff]
  constructor
  · rintro ⟨m, hm, rfl⟩
    obtain ⟨hnumeral, hle⟩ := read?_eq_some_iff_numeral.1 hm
    rwa [toNat_ofNat_of_le hle]
  · intro h
    exact ⟨n.toNat, read?_eq_some_iff_numeral.2 ⟨h, toNat_le_maxCount n⟩, UInt64.ofNat_toNat⟩

theorem count?_eq_none_iff {cs : List Char} :
    count? cs = none ↔ ∀ n, Numeral cs n → maxCount < n := by
  unfold count?
  rw [Option.map_eq_none_iff, Option.eq_none_iff_forall_ne_some]
  refine forall_congr' fun n => ?_
  rw [ne_eq, read?_eq_some_iff_numeral, not_and, Nat.not_le]

/-- The number that digits make of one that was read before them, with the limit checked after each
digit. -/
def accumulate? (limit : Nat) : Nat → List Char → Option Nat
  | n, [] => some n
  | n, c :: cs =>
    if c.isDigit ∧ 10 * n + (c.toNat - '0'.toNat) ≤ limit then
      accumulate? limit (10 * n + (c.toNat - '0'.toNat)) cs
    else none

theorem le_ofDigitChars (n : Nat) (cs : List Char) : n ≤ Nat.ofDigitChars 10 cs n := by
  induction cs generalizing n with
  | nil => exact Nat.le_refl n
  | cons c cs ih =>
      rw [Nat.ofDigitChars_cons]
      have := ih (10 * n + (c.toNat - '0'.toNat))
      omega

theorem accumulate?_eq {limit n : Nat} (h : n ≤ limit) (cs : List Char) :
    accumulate? limit n cs =
      if cs.all Char.isDigit ∧ Nat.ofDigitChars 10 cs n ≤ limit then
        some (Nat.ofDigitChars 10 cs n)
      else none := by
  induction cs generalizing n with
  | nil => simp [accumulate?, h]
  | cons c cs ih =>
      have hgrow := le_ofDigitChars (10 * n + (c.toNat - '0'.toNat)) cs
      unfold accumulate?
      rw [Nat.ofDigitChars_cons]
      split
      next hc =>
        rw [ih hc.2]
        simp [hc.1]
      next hc =>
        rw [if_neg]
        rintro ⟨hall, hle⟩
        exact hc ⟨by simpa using (List.all_eq_true.1 hall c List.mem_cons_self), by omega⟩

/-- **A check after each digit is a check at the end.** -/
theorem read?_eq_accumulate? (limit : Nat) {cs : List Char} (h : cs ≠ []) :
    read? limit cs = accumulate? limit 0 cs := by
  rw [accumulate?_eq (Nat.zero_le limit), read?]
  simp only [ne_eq, h, not_false_eq_true, true_and]
  rfl

end StreamRehearsal.Decimal
