import StreamRehearsal.Count

/-! # Decimal text

Whole numbers are written without leading zeros and read with any number of them.

* `digits n` are the digits of `n`, most significant first; `value cs` is the number that digits
  stand for, and `value_digits` says that the second undoes the first.  Only zero starts with the
  digit zero (`eq_zero_of_head?_digits`).
* `read? limit cs` accepts a text of one or more digits, and nothing else, whose value is at most
  `limit` (`read?_eq_some_iff`), so it reads every number that is written (`read?_digits`). -/

namespace StreamRehearsal.Decimal

/-- The digits of a number, most significant first, without leading zeros. -/
def digits (n : Nat) : List Char := Nat.toDigits 10 n

/-- The decimal text of a number. -/
def text (n : Nat) : String := String.ofList (digits n)

/-- The number that a list of digits stands for. -/
def value (cs : List Char) : Nat := Nat.ofDigitChars 10 cs 0

/-- The value of a text of one or more digits, if it is at most `limit`. -/
def read? (limit : Nat) (cs : List Char) : Option Nat :=
  if cs ≠ [] ∧ cs.all Char.isDigit ∧ value cs ≤ limit then some (value cs) else none

/-- The 64-bit count that a text of digits stands for. -/
def count? (cs : List Char) : Option UInt64 := (read? maxCount cs).map UInt64.ofNat

@[simp] theorem value_digits (n : Nat) : value (digits n) = n :=
  Nat.ofDigitChars_toDigits (by decide) (by decide)

theorem isDigit_of_mem_digits {n : Nat} {c : Char} (h : c ∈ digits n) : c.isDigit = true :=
  Nat.isDigit_of_mem_toDigits (by decide) (by decide) h

theorem notMem_text {c : Char} (h : c.isDigit = false) (n : Nat) : c ∉ (text n).toList := by
  intro hc
  rw [text, String.toList_ofList] at hc
  rw [isDigit_of_mem_digits hc] at h
  exact Bool.noConfusion h

@[simp] theorem lineFeed_notMem_text (n : Nat) : '\n' ∉ (text n).toList := notMem_text (by decide) n

theorem digits_ne_nil (n : Nat) : digits n ≠ [] := Nat.toDigits_ne_nil

/-- The only number whose digits start with a zero is zero. -/
theorem eq_zero_of_head?_digits {n : Nat} (h : (digits n).head? = some '0') : n = 0 := by
  induction n using Nat.strongRecOn with
  | ind n ih =>
      by_cases hn : n < 10
      · have hdigits : digits n = ['0'] := by
          rw [digits, Nat.toDigits_of_lt_base hn] at h ⊢
          simpa using h
        rw [← value_digits n, hdigits]
        rfl
      · have hsplit : digits n = digits (n / 10) ++ [(n % 10).digitChar] :=
          Nat.toDigits_of_base_le (by decide) (Nat.le_of_not_lt hn)
        have hhead : (digits n).head? = (digits (n / 10)).head? := by
          obtain ⟨c, cs, hcs⟩ := List.exists_cons_of_ne_nil (digits_ne_nil (n / 10))
          rw [hsplit, hcs]
          rfl
        have hzero := ih (n / 10) (by omega) (hhead.symm.trans h)
        omega

/-! ### Digits before other text -/

theorem takeWhile_digits_append {n : Nat} {rest : List Char}
    (h : ∀ c ∈ rest.head?, c.isDigit = false) :
    (digits n ++ rest).takeWhile Char.isDigit = digits n := by
  rw [List.takeWhile_append_of_pos fun _ => isDigit_of_mem_digits]
  cases rest with
  | nil => exact List.append_nil _
  | cons c rest =>
      have hc := h c rfl
      simp [hc]

theorem dropWhile_digits_append {n : Nat} {rest : List Char}
    (h : ∀ c ∈ rest.head?, c.isDigit = false) :
    (digits n ++ rest).dropWhile Char.isDigit = rest := by
  rw [List.dropWhile_append_of_pos fun _ => isDigit_of_mem_digits]
  cases rest with
  | nil => rfl
  | cons c rest =>
      have hc := h c rfl
      simp [hc]

/-! ### Reading -/

theorem read?_eq_some_iff {limit : Nat} {cs : List Char} {n : Nat} :
    read? limit cs = some n ↔ cs ≠ [] ∧ (∀ c ∈ cs, c.isDigit) ∧ value cs = n ∧ n ≤ limit := by
  unfold read?
  simp only [List.all_eq_true]
  split
  · rename_i h
    constructor
    · rintro ⟨⟩
      exact ⟨h.1, h.2.1, rfl, h.2.2⟩
    · rintro ⟨-, -, rfl, -⟩
      rfl
  · rename_i h
    constructor
    · rintro ⟨⟩
    · rintro ⟨h₁, h₂, rfl, h₃⟩
      exact absurd ⟨h₁, h₂, h₃⟩ h

/-- Every number within the limit is read back from its digits. -/
theorem read?_digits {limit n : Nat} (h : n ≤ limit) : read? limit (digits n) = some n :=
  read?_eq_some_iff.2 ⟨digits_ne_nil n, fun _ => isDigit_of_mem_digits, value_digits n, h⟩

@[simp] theorem count?_digits (n : UInt64) : count? (digits n.toNat) = some n := by
  simp [count?, read?_digits (toNat_le_maxCount n)]

end StreamRehearsal.Decimal
