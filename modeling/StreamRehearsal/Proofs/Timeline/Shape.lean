import StreamRehearsal.Proofs.Timeline.Meaning

/-! # The shape of a timeline

What every list of operations leaves behind, however long the operations are: in which order the
segments are listed, and what is said of each.

* `WellOrdered` is the order.  Segment zero is listed once, the others never go back, and only the
  last countable segment can be listed twice.  It is read off the invariant of the cursor
  (`wellOrdered_ofOperations`).
* `SegmentAction.Meaningful` is the content.  An action holds a segment back or fails it, never for
  zero seconds and only with a code that an operation gives.  One operation makes new actions,
  prolongs some or gives them its code, and each of these keeps the actions meaningful
  (`meaningful_record`, and `meaningful_ofOperations` for all operations).
* `exists_action_iff` is what this means for requests: exactly the listed segments are not under
  normal service. -/

namespace StreamRehearsal

namespace Timeline

/-! ### Order -/

/-- The order in which the actions of a timeline are listed. -/
structure WellOrdered (t : Timeline) : Prop where
  zero_once : t.indices.count 0 ≤ 1
  ascending : (t.indices.filter (· ≠ 0)).Pairwise (· ≤ ·)
  shared : ∀ (j k : Nat) (a b : SegmentAction), j ≠ k → t.actions[j]? = some a →
    t.actions[k]? = some b → a.index = b.index → a.index.toNat = maxCount

/-- What is listed in the order of a walk is listed twice only at the limit. -/
theorem Trail.nodup_filter {is : List UInt64} {cursor : UInt64} (h : Trail is cursor) :
    (is.filter fun i => i.toNat ≠ maxCount).Nodup := by
  refine (h.ordered.filter _).imp_of_mem fun {i j} hi _ hprec => ?_
  rintro rfl
  have hne : i.toNat ≠ maxCount := by simpa using (List.mem_filter.1 hi).2
  exact hne (hprec.2 rfl)

theorem Trail.count_zero_le_one {is : List UInt64} {cursor : UInt64} (h : Trail is cursor) :
    is.count 0 ≤ 1 := by
  have hcount := List.nodup_iff_count_le_one.1 h.nodup_filter 0
  rwa [List.count_filter (by decide)] at hcount

theorem Trail.ascending {is : List UInt64} {cursor : UInt64} (h : Trail is cursor) :
    (is.filter (· ≠ 0)).Pairwise (· ≤ ·) := by
  refine (h.ordered.filter _).imp_of_mem fun {i j} _ hj hprec => ?_
  have hne : j ≠ 0 := by simpa using (List.mem_filter.1 hj).2
  exact hprec.1.resolve_left hne

theorem Trail.eq_limit_of_shared {t : Timeline} {cursor : UInt64} (h : Trail t.indices cursor)
    {j k : Nat} {a b : SegmentAction} (hjk : j < k) (hj : t.actions[j]? = some a)
    (hk : t.actions[k]? = some b) (hab : a.index = b.index) : a.index.toNat = maxCount := by
  have hlist : t.indices.Pairwise fun i i' => i = i' → i.toNat = maxCount :=
    h.ordered.imp fun hprec => hprec.2
  unfold indices at hlist
  rw [List.pairwise_map, List.pairwise_iff_getElem] at hlist
  obtain ⟨hjlt, rfl⟩ := List.getElem?_eq_some_iff.1 hj
  obtain ⟨hklt, rfl⟩ := List.getElem?_eq_some_iff.1 hk
  exact hlist j k hjlt hklt hjk hab

/-- **The order of every timeline.**  Segment zero is listed at most once, the other segments are
listed in an order that never goes back, and two actions about one segment are about the last
countable one. -/
theorem wellOrdered_ofOperations (ops : List Operation) : (ofOperations ops).WellOrdered where
  zero_once := (trail_ofOperations ops).count_zero_le_one
  ascending := (trail_ofOperations ops).ascending
  shared j k a b hne hj hk hab := by
    rcases Nat.lt_or_gt_of_ne hne with hlt | hgt
    · exact (trail_ofOperations ops).eq_limit_of_shared hlt hj hk hab
    · rw [hab]
      exact (trail_ofOperations ops).eq_limit_of_shared hgt hk hj hab.symm

/-- The first and the last action share a segment, with segment zero between them. -/
theorem wellOrdered_ofOperations_of_shared :
    let longest : UInt64 := 18446744073709551615
    let t := ofOperations
      [.playback longest, .playback longest, .playback longest, .playback longest,
        .playback longest, .failure 404, .startup 1, .failure 503]
    t.actions[0]? = some (.failed longest 404) ∧ t.actions[2]? = some (.failed longest 503) ∧
      longest.toNat = maxCount := by
  intro longest t
  have hfirst : t.actions[0]? = some (.failed longest 404) := by decide
  have hlast : t.actions[2]? = some (.failed longest 503) := by decide
  exact ⟨hfirst, hlast,
    (wellOrdered_ofOperations _).shared 0 2 _ _ (by decide) hfirst hlast rfl⟩

end Timeline

/-! ### Content -/

/-- An action does something, and nothing that the operations do not ask for. -/
structure SegmentAction.Meaningful (a : SegmentAction) (ops : List Operation) : Prop where
  not_idle : a.delay ≠ none ∨ a.code ≠ none
  delay_pos : ∀ secs, a.delay = some secs → 1 ≤ secs.toNat
  code_mem : ∀ code, a.code = some code → .failure code ∈ ops

namespace SegmentAction.Meaningful

variable {a : SegmentAction} {ops : List Operation} {secs : UInt64} {code : UInt16}

theorem mono {ops' : List Operation} (h : a.Meaningful ops) (hsub : ops ⊆ ops') :
    a.Meaningful ops' :=
  ⟨h.not_idle, h.delay_pos, fun code hcode => hsub (h.code_mem code hcode)⟩

theorem delayed (h : 1 ≤ secs.toNat) (index : UInt64) :
    (SegmentAction.delayed index secs).Meaningful ops where
  not_idle := .inl nofun
  delay_pos _ e := Option.some.inj e ▸ h
  code_mem _ e := absurd e nofun

/-- A longer delay is no shorter than what is added, unless it is clipped. -/
theorem prolong (ha : a.Meaningful ops) (h : 1 ≤ secs.toNat) : (a.prolong secs).Meaningful ops where
  not_idle := .inl nofun
  delay_pos _ e := by
    rw [← Option.some.inj e, toNat_clip]
    exact Nat.le_min.2 ⟨Nat.le_add_left_of_le h, by decide⟩
  code_mem := ha.code_mem

theorem failed (h : .failure code ∈ ops) (index : UInt64) :
    (SegmentAction.failed index code).Meaningful ops where
  not_idle := .inr nofun
  delay_pos _ e := absurd e nofun
  code_mem _ e := Option.some.inj e ▸ h

theorem withCode (ha : a.Meaningful ops) (h : .failure code ∈ ops) :
    ({ a with code := some code } : SegmentAction).Meaningful ops where
  not_idle := .inr nofun
  delay_pos := ha.delay_pos
  code_mem _ e := Option.some.inj e ▸ h

/-- What a meaningful action asks for is not normal service. -/
theorem ofAction_ne_normal (h : a.Meaningful ops) : Treatment.ofAction a ≠ .normal := by
  intro e
  have hdelay : a.delay = none := by
    rw [← Treatment.delay?_ofParts a.delay a.code]
    exact congrArg Treatment.delay? e
  have hcode : a.code = none := by
    rw [← Treatment.code?_ofParts a.delay a.code]
    exact congrArg Treatment.code? e
  exact h.not_idle.elim (· hdelay) (· hcode)

end SegmentAction.Meaningful

namespace Timeline

/-- What holds of all actions and of what a delay makes of them holds after the delay. -/
theorem forall_mem_holdBack {P : SegmentAction → Prop} {index secs : UInt64}
    {actions : List SegmentAction} (h : ∀ a ∈ actions, P a)
    (hprolong : ∀ a, P a → P (a.prolong secs)) (hnew : P (.delayed index secs)) :
    ∀ a ∈ holdBack index secs actions, P a := by
  induction actions with
  | nil => simpa [holdBack] using hnew
  | cons b rest ih =>
      rw [List.forall_mem_cons] at h
      unfold holdBack
      split
      · exact List.forall_mem_cons.2 ⟨hprolong b h.1, h.2⟩
      · exact List.forall_mem_cons.2 ⟨h.1, ih h.2⟩

/-- What holds of all actions and of what a failure makes of them holds after the failure. -/
theorem forall_mem_fail {P : SegmentAction → Prop} {index : UInt64} {code : UInt16}
    {actions : List SegmentAction} (h : ∀ a ∈ actions, P a)
    (hcode : ∀ a, P a → P { a with code := some code }) (hnew : P (.failed index code)) :
    ∀ a ∈ fail index code actions, P a := by
  fun_induction fail index code actions with
  | case1 => simpa using hnew
  | case2 b hb => simpa using hcode b (h b List.mem_cons_self)
  | case3 b hb => simpa using ⟨h b List.mem_cons_self, hnew⟩
  | case4 b c rest ih =>
      rw [List.forall_mem_cons] at h
      exact List.forall_mem_cons.2 ⟨h.1, ih h.2⟩

theorem meaningful_addDelay {t : Timeline} {ops : List Operation}
    (h : ∀ a ∈ t.actions, a.Meaningful ops) (index secs : UInt64) :
    ∀ a ∈ (t.addDelay index secs).actions, a.Meaningful ops := by
  unfold addDelay
  split
  · exact h
  next hne =>
    have hpos : 1 ≤ secs.toNat := UInt64.lt_iff_toNat_lt.1 (UInt64.pos_iff_ne_zero.2 hne)
    exact forall_mem_holdBack h (fun _ ha => ha.prolong hpos) (.delayed hpos index)

/-- **What one operation does to the content**: it keeps every action meaningful. -/
theorem meaningful_record {t : Timeline} {ops : List Operation}
    (h : ∀ a ∈ t.actions, a.Meaningful ops) (cursor : UInt64) {op : Operation} (hop : op ∈ ops) :
    ∀ a ∈ (t.record cursor op).actions, a.Meaningful ops := by
  cases op with
  | startup delay => exact meaningful_addDelay h 0 delay
  | playback duration => exact h
  | rebuffer delay => exact meaningful_addDelay h cursor delay
  | failure code => exact forall_mem_fail h (fun _ ha => ha.withCode hop) (.failed hop cursor)

theorem meaningful_ofOperations (ops : List Operation) :
    ∀ a ∈ (ofOperations ops).actions, a.Meaningful ops := by
  induction ops using List.reverseRecOn with
  | nil => exact fun _ ha => absurd ha List.not_mem_nil
  | append_singleton xs op ih =>
      rw [ofOperations_concat]
      have hxs : ∀ a ∈ (ofOperations xs).actions, a.Meaningful (xs ++ [op]) := by
        intro a ha
        exact (ih a ha).mono (List.subset_append_left xs [op])
      exact meaningful_record hxs _ (List.mem_append_right xs List.mem_cons_self)

/-! ### Requests -/

theorem get?_eq_none_iff {t : Timeline} {index : UInt64} :
    t.get? index = none ↔ ∀ a ∈ t.actions, a.index ≠ index := by
  simp [get?]

/-- **Which segments are not under normal service**: those that have an action. -/
theorem exists_action_iff (ops : List Operation) (length : SegmentLength) (index : UInt64) :
    (∃ a ∈ (ofOperations ops).actions, a.index = index) ↔
      (ofOperations ops).resolve index length ≠ .normal := by
  rw [resolve_eq_lookup]
  unfold lookup
  cases hget : (ofOperations ops).get? index with
  | none =>
      constructor
      · rintro ⟨a, ha, e⟩
        exact absurd e (get?_eq_none_iff.1 hget a ha)
      · exact fun h => absurd rfl h
  | some a =>
      have ha : a ∈ (ofOperations ops).actions := List.mem_of_find?_eq_some hget
      constructor
      · exact fun _ => (meaningful_ofOperations ops a ha).ofAction_ne_normal
      · exact fun _ => ⟨a, ha, index_of_get?_eq_some hget⟩

theorem delay?_resolve_ofOperations_ne_zero (ops : List Operation) (length : SegmentLength)
    (index : UInt64) : ((ofOperations ops).resolve index length).delay? ≠ some 0 := by
  rw [resolve_eq_lookup]
  exact delay?_lookup_ofOperations_ne_zero ops index

end Timeline

end StreamRehearsal
