import Mathlib.Data.List.Induction
import StreamRehearsal.Text.Cut

/-! # What is cut off

Separators are dropped at the two ends of a text.  At its end all of them go, however many there
are; at its start one goes, and what is far behind it does not matter.

* `Cut.dropTrailing_eq_iff` says what is left at the end without dropping anything: a text that does
  not end in the separator, and that the separators which were dropped follow.
* `Cut.dropLeading_append_cons` and `Cut.dropLeading_eq_self` are about the start. -/

namespace StreamRehearsal.Cut

variable {sep c : Char} {cs rest : List Char}

/-! ### The end -/

theorem dropTrailing_append_replicate (sep : Char) (cs : List Char) (n : Nat) :
    dropTrailing sep (cs ++ List.replicate n sep) = dropTrailing sep cs := by
  induction n with
  | zero => rw [List.replicate_zero, List.append_nil]
  | succ n ih => rw [List.replicate_succ', ← List.append_assoc, dropTrailing_append_self, ih]

theorem dropTrailing_eq_self (h : cs.getLast? ≠ some sep) : dropTrailing sep cs = cs := by
  rcases List.eq_nil_or_concat cs with rfl | ⟨front, c, rfl⟩
  · rfl
  · rw [List.concat_eq_append] at h ⊢
    have hc : c ≠ sep := by
      rintro rfl
      exact h List.getLast?_concat
    exact dropTrailing_append_of_ne front hc

theorem getLast?_dropTrailing_ne (sep : Char) (cs : List Char) :
    (dropTrailing sep cs).getLast? ≠ some sep := by
  induction cs using List.reverseRecOn with
  | nil => exact nofun
  | append_singleton front c ih =>
      by_cases hc : c = sep
      · rwa [hc, dropTrailing_append_self]
      · rw [dropTrailing_append_of_ne front hc, List.getLast?_append]
        exact fun e => hc (Option.some.inj e)

theorem exists_eq_dropTrailing_append (sep : Char) (cs : List Char) :
    ∃ n, cs = dropTrailing sep cs ++ List.replicate n sep := by
  induction cs using List.reverseRecOn with
  | nil => exact ⟨0, rfl⟩
  | append_singleton front c ih =>
      by_cases hc : c = sep
      · obtain ⟨n, hn⟩ := ih
        refine ⟨n + 1, ?_⟩
        rw [hc, dropTrailing_append_self, List.replicate_succ', ← List.append_assoc, ← hn]
      · refine ⟨0, ?_⟩
        rw [dropTrailing_append_of_ne front hc, List.replicate_zero, List.append_nil]

/-- **What is left when the separators at the end are gone.** -/
theorem dropTrailing_eq_iff :
    dropTrailing sep cs = rest ↔
      (∃ n, cs = rest ++ List.replicate n sep) ∧ rest.getLast? ≠ some sep := by
  constructor
  · rintro rfl
    exact ⟨exists_eq_dropTrailing_append sep cs, getLast?_dropTrailing_ne sep cs⟩
  · rintro ⟨⟨n, rfl⟩, hlast⟩
    rw [dropTrailing_append_replicate, dropTrailing_eq_self hlast]

/-- A text whose last separator has something after it has no separator at its end. -/
theorem dropTrailing_append_cons (before : List Char) {after : List Char} (hne : after ≠ [])
    (h : sep ∉ after) : dropTrailing sep (before ++ sep :: after) = before ++ sep :: after := by
  refine dropTrailing_eq_self fun hlast => h ?_
  rw [List.getLast?_append, List.getLast?_cons, List.getLast?_eq_some_getLast hne] at hlast
  obtain rfl : after.getLast hne = sep := by simpa using hlast
  exact List.getLast_mem hne

/-! ### The start -/

theorem dropLeading_eq_self (h : cs.head? ≠ some sep) : dropLeading sep cs = cs := by
  cases cs with
  | nil => rfl
  | cons c rest =>
      have hc : c ≠ sep := by
        rintro rfl
        exact h rfl
      exact dropLeading_cons_of_ne hc rest

/-- What follows another character is not touched, also where nothing is in front of that. -/
theorem dropLeading_append_cons (h : c ≠ sep) (cs rest : List Char) :
    dropLeading sep (cs ++ c :: rest) = dropLeading sep cs ++ c :: rest := by
  cases cs with
  | nil => exact dropLeading_cons_of_ne h rest
  | cons first cs =>
      by_cases hfirst : first = sep
      · rw [hfirst, List.cons_append, dropLeading_cons_self, dropLeading_cons_self]
      · rw [List.cons_append, dropLeading_cons_of_ne hfirst, dropLeading_cons_of_ne hfirst,
          List.cons_append]

end StreamRehearsal.Cut
