import Mathlib.Data.List.Nodup
import StreamRehearsal.Config.Partial
import StreamRehearsal.Proofs.Scenario.Document

/-! # What is read, and from what

Each reader of documents is matched with what it reads: the value comes out if the document says it,
and from no other document.

* `Fields.Gives.orElse_eq` reads a field that is given a value, or none, and `Fields.exists_gives`
  says that nothing else leads to what is read.  `Fields.orElse_append_cons` leaves out a field that
  says what its absence says.
* `Document.natural?_eq_some_iff` and the lemmas after it are the same for each sort of value, and
  `Document.record?_eq_some_iff` for records. -/

namespace StreamRehearsal

/-! ### Fields -/

namespace Fields

theorem get?_eq_none_iff {fs : Fields} {name : String} :
    fs.get? name = none ↔ ∀ f ∈ fs, f.1 ≠ name := by
  simp [get?]

theorem get?_append_cons {name : String} {before after : Fields} {d : Document}
    (h : ∀ f ∈ before, f.1 ≠ name) : get? (before ++ (name, d) :: after) name = some d := by
  have hbefore : before.find? (fun f => f.1 == name) = none := by simpa using h
  simp [get?, hbefore]

/-- The number of fields with this name. -/
def count (fs : Fields) (name : String) : Nat := (fs.filter fun f => f.1 == name).length

theorem count_append_cons (before after : Fields) (name : String) (d : Document) :
    count (before ++ (name, d) :: after) name = count (before ++ after) name + 1 := by
  rw [count, count, List.filter_append, List.filter_append, List.filter_cons_of_pos (by simp),
    List.length_append, List.length_append, List.length_cons, Nat.add_assoc]

theorem count_eq_zero_iff {fs : Fields} {name : String} :
    fs.count name = 0 ↔ ∀ f ∈ fs, f.1 ≠ name := by
  simp [count]

section
variable {α β : Type} {fs : Fields} {name : String} {means : β → Document → Prop}

theorem Gives.count_le_one {o : Option β} (h : fs.Gives name means o) : fs.count name ≤ 1 := by
  cases o with
  | none =>
      rw [count_eq_zero_iff.2 h]
      exact Nat.zero_le 1
  | some b =>
      obtain ⟨before, d, after, rfl, -, hother⟩ := h
      have hcount := count_append_cons before after name d
      rw [count_eq_zero_iff.2 hother] at hcount
      exact Nat.le_of_eq hcount

theorem Gives.orElse_eq {o : Option β} (h : fs.Gives name means o) {read? : Document → Option α}
    {value : β → α} (hread : ∀ d b, means b d → read? d = some (value b)) (default : α) :
    fs.orElse name default read? = some (o.elim default value) := by
  unfold orElse
  cases o with
  | none => rw [get?_eq_none_iff.2 h, Option.elim_none]
  | some b =>
      obtain ⟨before, d, after, rfl, hb, hother⟩ := h
      rw [get?_append_cons fun f hf => hother f (List.mem_append_left _ hf)]
      exact hread d b hb

/-- A field that is there at most once is given what it is read to be. -/
theorem exists_gives {read? : Document → Option α} {value : β → α}
    (hread : ∀ d a, read? d = some a → ∃ b, means b d ∧ a = value b) (hone : fs.count name ≤ 1)
    {default a : α} (h : fs.orElse name default read? = some a) :
    ∃ o, fs.Gives name means o ∧ a = o.elim default value := by
  unfold orElse at h
  cases hget : fs.get? name with
  | none =>
      rw [hget] at h
      exact ⟨none, get?_eq_none_iff.1 hget, (Option.some.inj h).symm⟩
  | some d =>
      rw [hget] at h
      obtain ⟨b, hb, ha⟩ := hread d a h
      obtain ⟨f, hfind, rfl⟩ := Option.map_eq_some_iff.1 hget
      obtain ⟨hname, before, after, rfl, -⟩ := List.find?_eq_some_iff_append.1 hfind
      obtain rfl := eq_of_beq hname
      rw [count_append_cons] at hone
      exact ⟨some b, ⟨before, f.2, after, rfl, hb, count_eq_zero_iff.1 (by omega)⟩, ha⟩

end

theorem count_append_cons_of_ne {before after : Fields} {f : String × Document} {name : String}
    (h : f.1 ≠ name) : count (before ++ f :: after) name = count (before ++ after) name := by
  simp [count, h]

theorem get?_append_cons_of_ne {before after : Fields} {f : String × Document} {name : String}
    (h : f.1 ≠ name) : get? (before ++ f :: after) name = get? (before ++ after) name := by
  simp [get?, List.find?_append, h]

/-- A field from which the default is read may as well be absent. -/
theorem orElse_append_cons {α : Type} {before after : Fields} {name : String} {d : Document}
    (habsent : ∀ f ∈ before ++ after, f.1 ≠ name) {read? : Document → Option α} {default : α}
    (hread : read? d = some default) (other : String) :
    orElse (before ++ (name, d) :: after) other default read? =
      orElse (before ++ after) other default read? := by
  unfold orElse
  by_cases h : name = other
  · subst h
    rw [get?_append_cons fun f hf => habsent f (List.mem_append_left _ hf),
      get?_eq_none_iff.2 habsent]
    exact hread
  · rw [get?_append_cons_of_ne h]

/-! A field whose value is just what is given. -/

section
variable {α : Type} {fs : Fields} {name : String} {means : α → Document → Prop}
  {read? : Document → Option α}

theorem elim_id (o : Option α) (default : α) : o.elim default id = o.getD default := by
  cases o <;> rfl

theorem Gives.orElse_eq_getD {o : Option α} (h : fs.Gives name means o)
    (hread : ∀ d a, read? d = some a ↔ means a d) (default : α) :
    fs.orElse name default read? = some (o.getD default) := by
  rw [← elim_id]
  exact h.orElse_eq (fun d a => (hread d a).2) default

theorem exists_gives_getD (hread : ∀ d a, read? d = some a ↔ means a d)
    (hone : fs.count name ≤ 1) {default a : α} (h : fs.orElse name default read? = some a) :
    ∃ o, fs.Gives name means o ∧ a = o.getD default := by
  simp only [← elim_id]
  exact exists_gives (fun d a ha => ⟨a, (hread d a).1 ha, rfl⟩) hone h

end

end Fields

/-! ### Single values -/

namespace Document

theorem text?_eq_some_iff (d : Document) (s : String) : d.text? = some s ↔ d = .text s := by
  cases d <;> simp [text?]

theorem natural?_eq_some_iff {limit : Nat} {d : Document} {n : Nat} :
    d.natural? limit = some n ↔ d = .natural n ∧ n ≤ limit := by
  unfold natural? natural
  split
  next m =>
    simp only [Option.ite_none_right_eq_some, Option.some.injEq, number.injEq,
      Number.natural.injEq]
    constructor
    · rintro ⟨h, rfl⟩
      exact ⟨rfl, h⟩
    · rintro ⟨rfl, h⟩
      exact ⟨h, rfl⟩
  next hother =>
    constructor
    · nofun
    · rintro ⟨rfl, -⟩
      exact absurd rfl (hother n)

/-- A number of one width is read from the natural number that it is, and from nothing else. -/
theorem map_natural?_eq_some_iff {α : Type} {limit : Nat} {toNat : α → Nat} {ofNat : Nat → α}
    (hfits : ∀ a, toNat a ≤ limit) (hto : ∀ n, n ≤ limit → toNat (ofNat n) = n)
    (hof : ∀ a, ofNat (toNat a) = a) (d : Document) (a : α) :
    (d.natural? limit).map ofNat = some a ↔ d = .natural (toNat a) := by
  rw [Option.map_eq_some_iff]
  constructor
  · rintro ⟨n, hn, rfl⟩
    obtain ⟨rfl, hle⟩ := natural?_eq_some_iff.1 hn
    rw [hto n hle]
  · rintro rfl
    exact ⟨toNat a, natural?_eq_some_iff.2 ⟨rfl, hfits a⟩, hof a⟩

theorem word16?_eq_some_iff (d : Document) (n : UInt16) :
    d.word16? = some n ↔ d = .natural n.toNat :=
  map_natural?_eq_some_iff (fun n => Nat.le_pred_of_lt n.toNat_lt)
    (fun _ h => UInt16.toNat_ofNat_of_lt' (Nat.lt_of_le_pred (by decide) h))
    (fun _ => UInt16.ofNat_toNat) d n

theorem word32?_eq_some_iff (d : Document) (n : UInt32) :
    d.word32? = some n ↔ d = .natural n.toNat :=
  map_natural?_eq_some_iff (fun n => Nat.le_pred_of_lt n.toNat_lt)
    (fun _ h => UInt32.toNat_ofNat_of_lt' (Nat.lt_of_le_pred (by decide) h))
    (fun _ => UInt32.ofNat_toNat) d n

theorem count?_eq_some_iff (d : Document) (n : UInt64) :
    d.count? = some n ↔ d = .natural n.toNat :=
  map_natural?_eq_some_iff toNat_le_maxCount (fun _ => toNat_ofNat_of_le)
    (fun _ => UInt64.ofNat_toNat) d n

theorem optional?_eq_some_iff {α : Type} {read? : Document → Option α}
    {means : α → Document → Prop} (hread : ∀ d a, read? d = some a ↔ means a d)
    (hnull : read? .null = none) (d : Document) (o : Option α) :
    d.optional? read? = some o ↔ IsOptional means o d := by
  by_cases hd : d = .null
  · subst hd
    cases o with
    | none => exact ⟨fun _ => rfl, fun _ => rfl⟩
    | some a =>
        have hnone : ¬ means a .null := fun h =>
          absurd (hnull.symm.trans ((hread .null a).2 h)) nofun
        exact ⟨nofun, fun h => absurd h hnone⟩
  · have hsome : d.optional? read? = (read? d).map some := by
      cases d <;> first | rfl | exact absurd rfl hd
    rw [hsome, Option.map_eq_some_iff]
    cases o with
    | none => exact ⟨nofun, fun h => absurd h hd⟩
    | some a => simp [hread, IsOptional]

theorem pair32?_eq_some_iff (dialect : Dialect) (d : Document) (pair : UInt32 × UInt32) :
    d.pair32? dialect = some pair ↔ IsPair dialect pair d := by
  obtain ⟨width, height⟩ := pair
  constructor
  · intro h
    unfold pair32? at h
    split at h
    next a b rest =>
      split at h
      next hrest =>
        split at h
        next w t hw ht =>
          obtain ⟨rfl, rfl⟩ := Prod.mk.inj (Option.some.inj h)
          obtain rfl := (word32?_eq_some_iff a w).1 hw
          obtain rfl := (word32?_eq_some_iff b t).1 ht
          exact ⟨rest, rfl, by simpa using hrest⟩
        next => exact absurd h nofun
      next => exact absurd h nofun
    next => exact absurd h nofun
  · rintro ⟨rest, rfl, hrest⟩
    have hwidth := (word32?_eq_some_iff _ width).2 rfl
    have hheight := (word32?_eq_some_iff _ height).2 rfl
    have hallowed : dialect.allowsSurplus = true ∨ rest.isEmpty = true := by simpa using hrest
    simp only [pair32?, hwidth, hheight, if_pos hallowed]

/-- A list of things that are read only from what stands for them. -/
theorem eq_map_of_mapM_eq_some {α : Type} {read? : Document → Option α} {write : α → Document}
    (hread : ∀ d a, read? d = some a → d = write a) {items : List Document} {as : List α}
    (h : items.mapM read? = some as) : items = as.map write := by
  induction items generalizing as with
  | nil =>
      obtain rfl := Option.some.inj h
      rfl
  | cons d items ih =>
      simp only [List.mapM_cons, Option.bind_eq_bind, Option.bind_eq_some_iff] at h
      obtain ⟨a, ha, rest, hrest, has⟩ := h
      obtain rfl := Option.some.inj has
      rw [List.map_cons, ← hread d a ha, ← ih hrest]

theorem listOf?_text?_eq_some_iff (d : Document) (names : List String) :
    d.listOf? text? = some names ↔ d = .list (names.map .text) := by
  constructor
  · intro h
    cases d with
    | list items =>
        rw [eq_map_of_mapM_eq_some (fun d s => (text?_eq_some_iff d s).1) h]
    | _ => exact absurd h nofun
  · rintro rfl
    have hread : ∀ name, text? (.text name) = some name := fun _ => rfl
    exact listOf?_map hread names

theorem count_zip_le (names : List String) (items : List Document) (name : String) :
    Fields.count (names.zip items) name ≤ names.count name := by
  induction names generalizing items with
  | nil => exact Nat.zero_le _
  | cons first names ih =>
      cases items with
      | nil => exact Nat.zero_le _
      | cons d items =>
          have hrest := ih items
          unfold Fields.count at hrest ⊢
          rw [List.zip_cons_cons, List.filter_cons, List.count_cons]
          split <;> simp_all

theorem record?_eq_some_iff {dialect : Dialect} {names : List String} (hnames : names.Nodup)
    {d : Document} {fs : Fields} :
    d.record? dialect names 0 = some fs ↔
      d.Lays dialect names fs ∧ ∀ name ∈ names, fs.count name ≤ 1 := by
  constructor
  · intro h
    cases d with
    | table fields =>
        simp only [record?, Option.ite_none_right_eq_some, List.all_eq_true,
          decide_eq_true_eq] at h
        obtain ⟨hone, hfs⟩ := h
        obtain rfl := Option.some.inj hfs
        exact ⟨.table _, hone⟩
    | list items =>
        simp only [record?, Option.ite_none_right_eq_some] at h
        obtain ⟨⟨-, hsurplus⟩, hfs⟩ := h
        obtain rfl := Option.some.inj hfs
        exact ⟨.list items hsurplus, fun name _ => Nat.le_trans (count_zip_le names items name)
          (List.nodup_iff_count_le_one.1 hnames name)⟩
    | _ => exact absurd h.symm (Option.some_ne_none fs)
  · rintro ⟨hlays, hone⟩
    cases hlays with
    | table fs => simpa [record?, Fields.count] using hone
    | list items hsurplus => simp [record?, hsurplus]

end Document

namespace DelayMode

theorem ofName?_eq_some_iff (s : String) (m : DelayMode) : ofName? s = some m ↔ s = m.name := by
  constructor
  · intro h
    unfold ofName? at h
    split at h
    next hs => rw [hs, ← Option.some.inj h, name]
    next =>
      split at h
      next hs => rw [hs, ← Option.some.inj h, name]
      next => exact absurd h nofun
  · rintro rfl
    exact ofName?_name m

theorem ofDocument?_eq_some_iff (dialect : Dialect) (d : Document) (m : DelayMode) :
    ofDocument? dialect d = some m ↔ IsIn dialect m d := by
  unfold ofDocument? IsIn
  rw [Option.bind_eq_some_iff]
  constructor
  · rintro ⟨s, hchoice, hname⟩
    obtain rfl := (ofName?_eq_some_iff s m).1 hname
    unfold Document.choice? at hchoice
    split at hchoice
    next => exact .inl (by rw [Option.some.inj hchoice])
    next s e =>
      rw [Option.ite_none_right_eq_some] at hchoice
      exact .inr ⟨e, by rw [Option.some.inj hchoice.2], hchoice.1⟩
    next => exact absurd hchoice nofun
  · rintro (rfl | ⟨e, rfl, he⟩)
    · exact ⟨m.name, rfl, ofName?_name m⟩
    · exact ⟨m.name, if_pos he, ofName?_name m⟩

end DelayMode

end StreamRehearsal
