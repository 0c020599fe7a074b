/-! # Cutting text

Paths and names are cut at their last separator and rid of separators at their ends.

* `cutLast? sep cs` gives the text before and after the last `sep`, and `none` if there is none;
  `cutLast?_eq_some_iff` says that the text after it holds no `sep`.
* `dropTrailing sep cs` drops every `sep` at the end of `cs`, and `dropLeading sep cs` one at its
  start. -/

namespace StreamRehearsal.Cut

/-- The text before and after the last separator. -/
def cutLast? (sep : Char) : List Char → Option (List Char × List Char)
  | [] => none
  | c :: rest =>
    match cutLast? sep rest with
    | some (before, after) => some (c :: before, after)
    | none => if c = sep then some ([], rest) else none

theorem cutLast?_eq_none_iff {sep : Char} {cs : List Char} :
    cutLast? sep cs = none ↔ sep ∉ cs := by
  induction cs with
  | nil => simp [cutLast?]
  | cons c rest ih =>
    unfold cutLast?
    cases h : cutLast? sep rest with
    | some cut => simp_all
    | none =>
      have hr := ih.1 h
      by_cases hc : c = sep
      · simp [hc]
      · simp [hc, hr, Ne.symm hc]

theorem cutLast?_append_cons (sep : Char) (before : List Char) {after : List Char}
    (h : sep ∉ after) : cutLast? sep (before ++ sep :: after) = some (before, after) := by
  induction before with
  | nil => simp [cutLast?, cutLast?_eq_none_iff.2 h]
  | cons c before ih => simp [cutLast?, ih]

/-- A text is cut at a separator after which there is none. -/
theorem cutLast?_eq_some_iff {sep : Char} {cs before after : List Char} :
    cutLast? sep cs = some (before, after) ↔ cs = before ++ sep :: after ∧ sep ∉ after := by
  refine ⟨fun h => ?_, fun ⟨hcs, hafter⟩ => hcs ▸ cutLast?_append_cons sep before hafter⟩
  induction cs generalizing before with
  | nil => simp [cutLast?] at h
  | cons c rest ih =>
    unfold cutLast? at h
    cases hr : cutLast? sep rest with
    | some cut =>
      obtain ⟨u, v⟩ := cut
      simp only [hr, Option.some.injEq, Prod.mk.injEq] at h
      obtain ⟨rfl, rfl⟩ := h
      obtain ⟨hrest, hv⟩ := ih hr
      exact ⟨by simp [hrest], hv⟩
    | none =>
      by_cases hc : c = sep
      · simp only [hr, hc, if_true, Option.some.injEq, Prod.mk.injEq] at h
        obtain ⟨rfl, rfl⟩ := h
        exact ⟨by simp [hc], cutLast?_eq_none_iff.1 hr⟩
      · simp [hr, hc] at h

/-- The text without the separators at its end. -/
def dropTrailing (sep : Char) (cs : List Char) : List Char :=
  (cs.reverse.dropWhile (· == sep)).reverse

@[simp] theorem dropTrailing_nil (sep : Char) : dropTrailing sep [] = [] := rfl

@[simp] theorem dropTrailing_append_self (sep : Char) (cs : List Char) :
    dropTrailing sep (cs ++ [sep]) = dropTrailing sep cs := by
  simp [dropTrailing]

theorem dropTrailing_append_of_ne {sep c : Char} (cs : List Char) (h : c ≠ sep) :
    dropTrailing sep (cs ++ [c]) = cs ++ [c] := by
  simp [dropTrailing, h]

/-- The text without one separator at its start, if there is one. -/
def dropLeading (sep : Char) : List Char → List Char
  | [] => []
  | c :: rest => if c = sep then rest else c :: rest

@[simp] theorem dropLeading_nil (sep : Char) : dropLeading sep [] = [] := rfl

@[simp] theorem dropLeading_cons_self (sep : Char) (rest : List Char) :
    dropLeading sep (sep :: rest) = rest := by
  simp [dropLeading]

theorem dropLeading_cons_of_ne {sep c : Char} (h : c ≠ sep) (rest : List Char) :
    dropLeading sep (c :: rest) = c :: rest := by
  simp [dropLeading, h]

end StreamRehearsal.Cut
