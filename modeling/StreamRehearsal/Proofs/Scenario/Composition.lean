import StreamRehearsal.Proofs.Scenario.Grammar
import StreamRehearsal.Proofs.Text.Cut
import StreamRehearsal.Scenario.Basic

/-! # Scenario strings put together

Scenario strings are joined with dashes, and what the whole stands for is what the parts stand for,
one after the other.  The slash that may be in front is the only thing that has a place: it is
dropped at the start of the whole, and is a character like any other at the start of a later part.

* `Token.all_append` is about two parts, whatever the first is, and `Token.all_intercalate` about any
  number of them.
* `Token.operations_slash_append` says what a slash in front does: nothing, unless the string starts
  with one of its own.
* `Token.operation?_ofChars_eq_none_iff` lists the tokens that stand for no operation, and
  `Token.reading_distributes` adds that they can be left out. -/

namespace StreamRehearsal

namespace Token

/-! ### Two parts -/

/-- Nothing is dropped from a later part, so its tokens are all there is between its dashes. -/
theorem all_append_eq (a b : String) :
    all (a ++ "-" ++ b) = all a ++ (b.toList.splitOn '-').map ofChars := by
  have hchars : (a ++ "-" ++ b).toList = a.toList ++ '-' :: b.toList := by simp
  unfold all allChars
  rw [hchars, Cut.dropLeading_append_cons (by decide), List.splitOn_append_cons_self,
    List.map_append]

theorem all_append (a : String) {b : String} (hb : b.toList.head? ≠ some '/') :
    all (a ++ "-" ++ b) = all a ++ all b := by
  rw [all_append_eq, all, all, allChars, allChars, Cut.dropLeading_eq_self hb]

theorem operations_append (a : String) {b : String} (hb : b.toList.head? ≠ some '/') :
    operations (a ++ "-" ++ b) = operations a ++ operations b := by
  unfold operations
  rw [all_append a hb, List.filterMap_append]

/-- Joining any number of parts is joining two, again and again. -/
theorem all_intercalate (a : String) {parts : List String}
    (h : ∀ part ∈ parts, part.toList.head? ≠ some '/') :
    all ("-".intercalate (a :: parts)) = (a :: parts).flatMap all := by
  induction parts generalizing a with
  | nil => simp
  | cons b parts ih =>
      rw [List.forall_mem_cons] at h
      have hjoin : "-".intercalate (a :: b :: parts) = "-".intercalate ((a ++ "-" ++ b) :: parts) :=
        rfl
      rw [hjoin, ih _ h.2, List.flatMap_cons, all_append a h.1, List.flatMap_cons,
        List.flatMap_cons, List.append_assoc]

/-! ### The slash in front -/

/-- One slash is dropped from the start of a scenario string, so another one in front changes
nothing unless there is one already. -/
theorem all_slash_append {path : String} (h : path.toList.head? ≠ some '/') :
    all ("/" ++ path) = all path := by
  have hchars : ("/" ++ path).toList = '/' :: path.toList := by simp
  unfold all allChars
  rw [hchars, Cut.dropLeading_cons_self, Cut.dropLeading_eq_self h]

theorem operations_slash_append {path : String} (h : path.toList.head? ≠ some '/') :
    operations ("/" ++ path) = operations path := by
  unfold operations
  rw [all_slash_append h]

/-! ### Tokens that stand for no operation -/

/-- Only the first character decides whether a token stands for an operation. -/
theorem operation?_ofChars_eq_none_iff {cs : List Char} :
    (ofChars cs).operation? = none ↔ ∀ c ∈ cs.head?, c ∉ ['s', 'p', 'r', 'e'] := by
  obtain ⟨rfl, e⟩ | ⟨c, rest, rfl, hc, e⟩ | ⟨kind, rest, rfl, e⟩ := ofChars_cases cs
  · simp [e]
  · simpa [e] using hc
  · have hletter : kind.letter ∈ ['s', 'p', 'r', 'e'] := by cases kind <;> decide
    rw [e, operation?_operation]
    exact ⟨nofun, fun h => absurd hletter (h _ rfl)⟩

/-- A part without dashes is one token, also if a slash is its first character. -/
theorem all_append_token (a : String) {x : String} (hx : '-' ∉ x.toList) :
    all (a ++ "-" ++ x) = all a ++ [ofChars x.toList] := by
  rw [all_append_eq, List.splitOn_eq_singleton hx, List.map_singleton]

theorem operations_append_idle (a : String) {x : String} (hx : '-' ∉ x.toList)
    (hidle : ∀ c ∈ x.toList.head?, c ∉ ['s', 'p', 'r', 'e']) :
    operations (a ++ "-" ++ x) = operations a := by
  have hnone := operation?_ofChars_eq_none_iff.2 hidle
  unfold operations
  rw [all_append_token a hx, List.filterMap_append, List.filterMap_cons_none hnone,
    List.filterMap_nil, List.append_nil]

end Token

namespace Token

/-- **Reading distributes over dashes.**  Let a part of a scenario string not start with a slash.
Then its tokens follow those of the part in front of it, and so do its operations, which are those of
the tokens, in order.  One slash in front of everything is ignored, and a token between two parts
that stands for no operation leaves the compiled scenario as it is. -/
theorem reading_distributes (a : String) {b : String} (hb : b.toList.head? ≠ some '/') :
    all (a ++ "-" ++ b) = all a ++ all b ∧
      operations (a ++ "-" ++ b) = operations a ++ operations b ∧
      operations a = (all a).filterMap operation? ∧
      (a.toList.head? ≠ some '/' →
        all ("/" ++ a) = all a ∧ operations ("/" ++ a) = operations a) ∧
      (∀ parts : List String, (∀ part ∈ parts, part.toList.head? ≠ some '/') →
        all ("-".intercalate (a :: parts)) = (a :: parts).flatMap all) ∧
      ∀ x : String, '-' ∉ x.toList → (∀ c ∈ x.toList.head?, c ∉ ['s', 'p', 'r', 'e']) →
        Scenario.compile (a ++ "-" ++ x ++ "-" ++ b) = Scenario.compile (a ++ "-" ++ b) := by
  refine ⟨all_append a hb, operations_append a hb, rfl,
    fun ha => ⟨all_slash_append ha, operations_slash_append ha⟩, fun parts => all_intercalate a,
    fun x hx hidle => ?_⟩
  refine congrArg Scenario.ofOperations ?_
  calc operations (a ++ "-" ++ x ++ "-" ++ b)
      = operations (a ++ "-" ++ x) ++ operations b := operations_append _ hb
    _ = operations a ++ operations b := by rw [operations_append_idle a hx hidle]
    _ = operations (a ++ "-" ++ b) := (operations_append a hb).symm

/-- The first part is nothing but a slash, the last one ends in a dash, and what is between them
starts with a slash of its own. -/
theorem reading_distributes_of_slash :
    let b := "s5-"
    let x := "/s9"
    b.toList.head? ≠ some '/' ∧ '-' ∉ x.toList ∧
      (∀ c ∈ x.toList.head?, c ∉ ['s', 'p', 'r', 'e']) ∧
      all ("/" ++ "-" ++ b) = [empty, operation (.startup 5), empty] ∧
      Scenario.compile ("/" ++ "-" ++ x ++ "-" ++ b) = Scenario.compile ("/" ++ "-" ++ b) := by
  intro b x
  have hb : b.toList.head? ≠ some '/' := by decide
  have hx : '-' ∉ x.toList := by decide
  have hhead : x.toList.head? = some '/' := by decide
  have hidle : ∀ c ∈ x.toList.head?, c ∉ ['s', 'p', 'r', 'e'] := by
    intro c hc
    obtain rfl : '/' = c := Option.some.inj (hhead.symm.trans hc)
    decide
  have hparts : all "/" ++ all "s5-" = [empty, operation (.startup 5), empty] := by decide
  obtain ⟨hall, -, -, -, -, hcompile⟩ := reading_distributes "/" hb
  exact ⟨hb, hx, hidle, hall.trans hparts, hcompile x hx hidle⟩

end Token

end StreamRehearsal
