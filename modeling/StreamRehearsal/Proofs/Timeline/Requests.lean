import StreamRehearsal.Proofs.Count.Quotient
import StreamRehearsal.Proofs.Text.Numeral
import StreamRehearsal.Proofs.Timeline.Shape

/-! # Asking for a segment

A segment is asked for by its index, by the time that a player has been running or by the name of its
file.  In each way the first action about the segment decides, for timelines of any sort: actions may
repeat an index, stand in any order, and ask for nothing.

* `lookup_cases` takes a look-up apart: there is a first action about the segment, or none at all.
* `exists_due` gives the segment that is due after some time, and says that it is the only one.
* `resolve?` and `resolveElapsed?` look segments up by 64-bit arithmetic that has no result where a
  step would leave the range or divide by zero; `resolve?_seconds` and `resolveElapsed?_seconds` say
  that for segments of some length they always have one, and which.
* `resolve_agrees_with_resolveElapsed` puts these together.
* `resolveName_of_numeral` and `resolveName_of_no_numeral` say what becomes of a name: its stem is
  the numeral of a count, or the request is invalid.  `resolveName_by_value` says that of two stems
  only the number matters. -/

namespace StreamRehearsal.Timeline

/-! ### The first action -/

/-- An action is the first one about a segment. -/
def First (t : Timeline) (index : UInt64) (a : SegmentAction) : Prop :=
  ∃ before after, t.actions = before ++ a :: after ∧ a.index = index ∧
    ∀ b ∈ before, b.index ≠ index

theorem get?_eq_some_iff {t : Timeline} {index : UInt64} {a : SegmentAction} :
    t.get? index = some a ↔ t.First index a := by
  unfold get? First
  simp only [List.find?_eq_some_iff_append, beq_iff_eq, Bool.not_eq_true', beq_eq_false_iff_ne]
  constructor
  · rintro ⟨ha, before, after, hactions, hbefore⟩
    exact ⟨before, after, hactions, ha, hbefore⟩
  · rintro ⟨before, after, hactions, ha, hbefore⟩
    exact ⟨ha, before, after, hactions, hbefore⟩

theorem lookup_cases (t : Timeline) (index : UInt64) :
    (∃ a, t.First index a ∧ t.lookup index = Treatment.ofAction a) ∨
      (∀ a ∈ t.actions, a.index ≠ index) ∧ t.lookup index = .normal := by
  unfold lookup
  cases h : t.get? index with
  | some a => exact .inl ⟨a, get?_eq_some_iff.1 h, rfl⟩
  | none => exact .inr ⟨get?_eq_none_iff.1 h, rfl⟩

/-! ### The segment that is due -/

/-- The segment with this index is due after some seconds: it starts no earlier, and the one before
it, if there is one, does. -/
def Due (elapsed : UInt64) (length : SegmentLength) (index : Nat) : Prop :=
  elapsed.toNat ≤ index * length.seconds.toNat ∧
    (index = 0 ∨ (index - 1) * length.seconds.toNat < elapsed.toNat)

theorem due_iff {elapsed : UInt64} {length : SegmentLength} {index : Nat} :
    Due elapsed length index ↔ index = ceilDiv elapsed.toNat length.seconds.toNat :=
  (eq_ceilDiv_iff length.positive).symm

/-- One segment is due at any time, and its index is a count. -/
theorem exists_due (t : Timeline) (elapsed : UInt64) (length : SegmentLength) :
    ∃ index : UInt64, (∀ n, Due elapsed length n ↔ n = index.toNat) ∧
      t.resolveElapsed elapsed length = t.lookup index := by
  have hfits : ceilDiv elapsed.toNat length.seconds.toNat ≤ maxCount :=
    (ceilDiv_le_self _ length.positive).trans (toNat_le_maxCount elapsed)
  refine ⟨UInt64.ofNat (ceilDiv elapsed.toNat length.seconds.toNat), fun n => ?_, rfl⟩
  rw [due_iff, toNat_ofNat_of_le hfits]

/-! ### Steps that fit -/

/-- The treatment of the segment that is due after some seconds, unless a step fails. -/
def resolveElapsed? (t : Timeline) (elapsed seconds : UInt64) : Option Treatment :=
  (Checked.ceilDiv? elapsed seconds).map t.lookup

/-- The treatment of a segment, by the time at which it starts; a start that is too late for a count
is no failure, as then the index is looked up. -/
def resolve? (t : Timeline) (index seconds : UInt64) : Option Treatment :=
  match Checked.mul? index seconds with
  | some elapsed => t.resolveElapsed? elapsed seconds
  | none => some (t.lookup index)

theorem resolveElapsed?_seconds (t : Timeline) (elapsed : UInt64) (length : SegmentLength) :
    t.resolveElapsed? elapsed length.seconds = some (t.resolveElapsed elapsed length) := by
  rw [resolveElapsed?, Checked.ceilDiv?_eq_some elapsed length.positive]
  rfl

theorem resolve?_seconds (t : Timeline) (index : UInt64) (length : SegmentLength) :
    t.resolve? index length.seconds = some (t.resolve index length) := by
  unfold resolve? resolve
  by_cases h : index.toNat * length.seconds.toNat ≤ maxCount
  · simp only [Checked.mul?_eq_some h, if_pos h, resolveElapsed?_seconds]
  · -- the segment starts too late for a count, and both look its index up
    simp only [Checked.mul?, if_neg h]

/-- **Asking by index and by time agree.**  The length of segments does not matter to an index,
however late its segment starts: the first action about it decides.  A time stands for the one
segment that is due.  No step on the way leaves the range of counts or divides by zero. -/
theorem resolve_agrees_with_resolveElapsed (t : Timeline) (length other : SegmentLength)
    (index elapsed : UInt64) :
    t.resolve index length = t.resolve index other ∧
      ((∃ a, t.First index a ∧ t.resolve index length = Treatment.ofAction a) ∨
        (∀ a ∈ t.actions, a.index ≠ index) ∧ t.resolve index length = .normal) ∧
      (∃ due : UInt64, (∀ n, Due elapsed length n ↔ n = due.toNat) ∧
        t.resolveElapsed elapsed length = t.resolve due length) ∧
      t.resolve? index length.seconds = some (t.resolve index length) ∧
      t.resolveElapsed? elapsed length.seconds = some (t.resolveElapsed elapsed length) := by
  refine ⟨?_, ?_, ?_, t.resolve?_seconds index length, t.resolveElapsed?_seconds elapsed length⟩
  · rw [resolve_eq_lookup, resolve_eq_lookup]
  · rw [resolve_eq_lookup]
    exact t.lookup_cases index
  · obtain ⟨due, hdue, hlookup⟩ := t.exists_due elapsed length
    exact ⟨due, hdue, hlookup.trans (t.resolve_eq_lookup due length).symm⟩

/-- The last segment that can be counted starts too late for a count, and at the latest time that
can be counted a segment starts; segments without a length are no segments. -/
example :
    let t : Timeline := ⟨[.failed 18446744073709551615 503, .delayed 3689348814741910323 9]⟩
    t.resolve? 18446744073709551615 5 = some (.failure 503) ∧
      t.resolveElapsed? 18446744073709551615 5 = some (.delayed 9) ∧
      t.resolve? 0 0 = none := by
  decide

/-! ### Names -/

open Decimal (Numeral)

theorem resolveName_of_numeral (t : Timeline) (length : SegmentLength) {stem : String}
    {index : UInt64} (h : Numeral stem.toList index.toNat) :
    t.resolveName stem length = .ok (t.resolve index length) := by
  have hindex : SegmentName.index? stem = some index := Decimal.count?_eq_some_iff.2 h
  rw [resolveName, hindex]

theorem resolveName_of_no_numeral (t : Timeline) (length : SegmentLength) {stem : String}
    (h : ∀ n, Numeral stem.toList n → maxCount < n) : t.resolveName stem length = .error ⟨stem⟩ := by
  have hindex : SegmentName.index? stem = none := Decimal.count?_eq_none_iff.2 h
  rw [resolveName, hindex]

theorem resolveName_cases (t : Timeline) (length : SegmentLength) (stem : String) :
    (∃ index : UInt64, Numeral stem.toList index.toNat ∧
        t.resolveName stem length = .ok (t.resolve index length)) ∨
      (∀ n, Numeral stem.toList n → maxCount < n) ∧
        t.resolveName stem length = .error ⟨stem⟩ := by
  cases h : Decimal.count? stem.toList with
  | some index =>
      have hindex := Decimal.count?_eq_some_iff.1 h
      exact .inl ⟨index, hindex, t.resolveName_of_numeral length hindex⟩
  | none =>
      have hnone := Decimal.count?_eq_none_iff.1 h
      exact .inr ⟨hnone, t.resolveName_of_no_numeral length hnone⟩

/-- **Which names are segments.**  A stem that is the numeral of a count asks for the segment with
this index, whatever the number of zeros in front, so stems with one value are treated alike.  Any
other stem is an invalid request and is given back as it is. -/
theorem resolveName_by_value (t : Timeline) (length : SegmentLength) (stem : String) :
    (∀ treatment, t.resolveName stem length = .ok treatment ↔
        ∃ index : UInt64, Numeral stem.toList index.toNat ∧ t.resolve index length = treatment) ∧
      (∀ e, t.resolveName stem length = .error e ↔
        e = ⟨stem⟩ ∧ ∀ n, Numeral stem.toList n → maxCount < n) ∧
      (∀ other n, n ≤ maxCount → Numeral stem.toList n → Numeral other.toList n →
        t.resolveName other length = t.resolveName stem length) ∧
      ∀ zeros, ∀ index : UInt64,
        t.resolveName (String.ofList (List.replicate zeros '0' ++ Decimal.digits index.toNat))
          length = .ok (t.resolve index length) := by
  refine ⟨fun treatment => ?_, fun e => ?_, fun other n hn hstem hother => ?_,
    fun zeros index => ?_⟩
  · constructor
    · intro h
      rcases t.resolveName_cases length stem with ⟨index, hindex, hok⟩ | ⟨-, herror⟩
      · exact ⟨index, hindex, Except.ok.inj (hok.symm.trans h)⟩
      · exact absurd (herror.symm.trans h) nofun
    · rintro ⟨index, hindex, rfl⟩
      exact t.resolveName_of_numeral length hindex
  · constructor
    · intro h
      rcases t.resolveName_cases length stem with ⟨index, -, hok⟩ | ⟨hnone, herror⟩
      · exact absurd (hok.symm.trans h) nofun
      · exact ⟨(Except.error.inj (herror.symm.trans h)).symm, hnone⟩
    · rintro ⟨rfl, hnone⟩
      exact t.resolveName_of_no_numeral length hnone
  · rw [← toNat_ofNat_of_le hn] at hstem hother
    rw [t.resolveName_of_numeral length hstem, t.resolveName_of_numeral length hother]
  · apply resolveName_of_numeral
    rw [String.toList_ofList]
    exact Decimal.numeral_iff_zeros.2 ⟨zeros, rfl⟩

/-- Zeros make a stem longer than any count is, and a sign, which tokens may have, makes it none. -/
example :
    let t : Timeline := ⟨[.delayed 7 10]⟩
    t.resolveName "000000000000000000000007" .nominal = .ok (.delayed 10) ∧
      t.resolveName "+7" .nominal = .error ⟨"+7"⟩ ∧
      t.resolveName "18446744073709551616" .nominal = .error ⟨"18446744073709551616"⟩ := by
  decide

end StreamRehearsal.Timeline
