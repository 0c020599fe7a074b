import StreamRehearsal.Proofs.Document.Reading

/-! # Given fields replace defaults

A configuration is read from any document that gives part of one.

* `ofDocument?_eq_some_iff` of each section, and of whole configurations, says which documents are
  read and as what: as the defaults, with what is given in their place.
* `ofDocument?_empty_section` leaves out a section without fields.
* `ofDocument?_toDocument` reads back what is written.
* `given_fields_replace_defaults` puts these together. -/

namespace StreamRehearsal

namespace Config

/-! ### Sections -/

section
variable {dialect : Dialect} {d : Document}

open Fields (exists_gives_getD)

theorem Endpoint.ofDocument?_eq_some_iff {e : Endpoint} :
    ofDocument? dialect d = some e ↔ ∃ p : Partial, p.IsIn dialect d ∧ e = p.laidOver {} := by
  have hrecord := @Document.record?_eq_some_iff dialect ["host", "port"] (by decide) d
  unfold ofDocument?
  constructor
  · intro h
    split at h
    next fs hfs =>
      obtain ⟨hlays, hone⟩ := hrecord.1 hfs
      simp only [Option.bind_eq_bind, Option.bind_eq_some_iff] at h
      obtain ⟨host, hhost, port, hport, he⟩ := h
      obtain ⟨o₁, g₁, rfl⟩ :=
        exists_gives_getD Document.text?_eq_some_iff (hone _ (by decide)) hhost
      obtain ⟨o₂, g₂, rfl⟩ :=
        exists_gives_getD Document.word16?_eq_some_iff (hone _ (by decide)) hport
      exact ⟨⟨o₁, o₂⟩, ⟨fs, hlays, g₁, g₂⟩, (Option.some.inj he).symm⟩
    next => exact absurd h nofun
  · rintro ⟨p, ⟨fs, hlays, hgiven⟩, rfl⟩
    have hfs := hrecord.2 ⟨hlays, by simp [hgiven.host.count_le_one, hgiven.port.count_le_one]⟩
    simp only [hfs, hgiven.host.orElse_eq_getD Document.text?_eq_some_iff,
      hgiven.port.orElse_eq_getD Document.word16?_eq_some_iff]
    rfl

theorem resolution_eq_some_iff (d : Document) (o : Option (UInt32 × UInt32)) :
    d.optional? (Document.pair32? dialect) = some o ↔
      Document.IsOptional (Document.IsPair dialect) o d :=
  Document.optional?_eq_some_iff (Document.pair32?_eq_some_iff dialect) rfl d o

theorem codecs_eq_some_iff (d : Document) (o : Option String) :
    d.optional? Document.text? = some o ↔ Document.IsOptional (fun s d => d = .text s) o d :=
  Document.optional?_eq_some_iff Document.text?_eq_some_iff rfl d o

theorem Media.ofDocument?_eq_some_iff {m : Media} :
    ofDocument? dialect d = some m ↔ ∃ p : Partial, p.IsIn dialect d ∧ m = p.laidOver {} := by
  have hrecord := @Document.record?_eq_some_iff dialect
    ["dir", "stub_segment", "bandwidth", "resolution", "codecs"] (by decide) d
  unfold ofDocument?
  constructor
  · intro h
    split at h
    next fs hfs =>
      obtain ⟨hlays, hone⟩ := hrecord.1 hfs
      simp only [Option.bind_eq_bind, Option.bind_eq_some_iff] at h
      obtain ⟨dir, hdir, stub, hstub, bandwidth, hbandwidth, resolution, hresolution, codecs,
        hcodecs, hm⟩ := h
      obtain ⟨o₁, g₁, rfl⟩ :=
        exists_gives_getD Document.text?_eq_some_iff (hone _ (by decide)) hdir
      obtain ⟨o₂, g₂, rfl⟩ :=
        exists_gives_getD Document.text?_eq_some_iff (hone _ (by decide)) hstub
      obtain ⟨o₃, g₃, rfl⟩ :=
        exists_gives_getD Document.word32?_eq_some_iff (hone _ (by decide)) hbandwidth
      obtain ⟨o₄, g₄, rfl⟩ :=
        exists_gives_getD resolution_eq_some_iff (hone _ (by decide)) hresolution
      obtain ⟨o₅, g₅, rfl⟩ := exists_gives_getD codecs_eq_some_iff (hone _ (by decide)) hcodecs
      exact ⟨⟨o₁, o₂, o₃, o₄, o₅⟩, ⟨fs, hlays, g₁, g₂, g₃, g₄, g₅⟩, (Option.some.inj hm).symm⟩
    next => exact absurd h nofun
  · rintro ⟨p, ⟨fs, hlays, hgiven⟩, rfl⟩
    have hfs := hrecord.2 ⟨hlays, by simp [hgiven.dir.count_le_one, hgiven.stub.count_le_one,
      hgiven.bandwidth.count_le_one, hgiven.resolution.count_le_one, hgiven.codecs.count_le_one]⟩
    simp only [hfs, hgiven.dir.orElse_eq_getD Document.text?_eq_some_iff,
      hgiven.stub.orElse_eq_getD Document.text?_eq_some_iff,
      hgiven.bandwidth.orElse_eq_getD Document.word32?_eq_some_iff,
      hgiven.resolution.orElse_eq_getD resolution_eq_some_iff,
      hgiven.codecs.orElse_eq_getD codecs_eq_some_iff]
    rfl

theorem Rehearsal.ofDocument?_eq_some_iff {r : Rehearsal} :
    ofDocument? dialect d = some r ↔ ∃ p : Partial, p.IsIn dialect d ∧ r = p.laidOver {} := by
  have hrecord := @Document.record?_eq_some_iff dialect ["cache_entries", "delay_mode", "ignore"]
    (by decide) d
  unfold ofDocument?
  constructor
  · intro h
    split at h
    next fs hfs =>
      obtain ⟨hlays, hone⟩ := hrecord.1 hfs
      simp only [Option.bind_eq_bind, Option.bind_eq_some_iff] at h
      obtain ⟨cacheEntries, hcacheEntries, delayMode, hdelayMode, ignore, hignore, hr⟩ := h
      obtain ⟨o₁, g₁, rfl⟩ :=
        exists_gives_getD Document.count?_eq_some_iff (hone _ (by decide)) hcacheEntries
      obtain ⟨o₂, g₂, rfl⟩ :=
        exists_gives_getD (DelayMode.ofDocument?_eq_some_iff dialect) (hone _ (by decide)) hdelayMode
      obtain ⟨o₃, g₃, rfl⟩ :=
        exists_gives_getD Document.listOf?_text?_eq_some_iff (hone _ (by decide)) hignore
      exact ⟨⟨o₁, o₂, o₃⟩, ⟨fs, hlays, g₁, g₂, g₃⟩, (Option.some.inj hr).symm⟩
    next => exact absurd h nofun
  · rintro ⟨p, ⟨fs, hlays, hgiven⟩, rfl⟩
    have hfs := hrecord.2 ⟨hlays, by simp [hgiven.cacheEntries.count_le_one,
      hgiven.delayMode.count_le_one, hgiven.ignore.count_le_one]⟩
    simp only [hfs, hgiven.cacheEntries.orElse_eq_getD Document.count?_eq_some_iff,
      hgiven.delayMode.orElse_eq_getD (DelayMode.ofDocument?_eq_some_iff dialect),
      hgiven.ignore.orElse_eq_getD Document.listOf?_text?_eq_some_iff]
    rfl

/-- **Which documents are read, and as what**: those that are partial configurations, and as the
defaults with what they give in their place. -/
theorem ofDocument?_eq_some_iff {c : Config} :
    ofDocument? dialect d = some c ↔ ∃ p : Partial, p.IsIn dialect d ∧ c = p.laidOver {} := by
  have hrecord := @Document.record?_eq_some_iff dialect ["server", "media", "scenario"]
    (by decide) d
  have hserver : ∀ d e, Endpoint.ofDocument? dialect d = some e → _ :=
    fun d e => Endpoint.ofDocument?_eq_some_iff.1
  have hmedia : ∀ d m, Media.ofDocument? dialect d = some m → _ :=
    fun d m => Media.ofDocument?_eq_some_iff.1
  have hscenario : ∀ d r, Rehearsal.ofDocument? dialect d = some r → _ :=
    fun d r => Rehearsal.ofDocument?_eq_some_iff.1
  unfold ofDocument?
  constructor
  · intro h
    split at h
    next fs hfs =>
      obtain ⟨hlays, hone⟩ := hrecord.1 hfs
      simp only [Option.bind_eq_bind, Option.bind_eq_some_iff] at h
      obtain ⟨server, hs, media, hm, scenario, hr, hc⟩ := h
      obtain ⟨o₁, g₁, rfl⟩ := Fields.exists_gives hserver (hone _ (by decide)) hs
      obtain ⟨o₂, g₂, rfl⟩ := Fields.exists_gives hmedia (hone _ (by decide)) hm
      obtain ⟨o₃, g₃, rfl⟩ := Fields.exists_gives hscenario (hone _ (by decide)) hr
      exact ⟨⟨o₁, o₂, o₃⟩, ⟨fs, hlays, g₁, g₂, g₃⟩, (Option.some.inj hc).symm⟩
    next => exact absurd h nofun
  · rintro ⟨p, ⟨fs, hlays, hgiven⟩, rfl⟩
    have hfs := hrecord.2 ⟨hlays, by simp [hgiven.server.count_le_one,
      hgiven.media.count_le_one, hgiven.scenario.count_le_one]⟩
    simp only [hfs,
      hgiven.server.orElse_eq fun d p hp => Endpoint.ofDocument?_eq_some_iff.2 ⟨p, hp, rfl⟩,
      hgiven.media.orElse_eq fun d p hp => Media.ofDocument?_eq_some_iff.2 ⟨p, hp, rfl⟩,
      hgiven.scenario.orElse_eq fun d p hp => Rehearsal.ofDocument?_eq_some_iff.2 ⟨p, hp, rfl⟩]
    rfl

/-! ### Empty sections -/

/-- A section without fields says what an absent one says, in a document that may be anything
else. -/
theorem ofDocument?_empty_section {name : String} {before after : Fields}
    (habsent : ∀ f ∈ before ++ after, f.1 ≠ name) {empty : Document}
    (hempty : empty = .table [] ∨ empty = .list []) :
    ofDocument? dialect (.table (before ++ (name, empty) :: after)) =
      ofDocument? dialect (.table (before ++ after)) := by
  have hserver : Endpoint.ofDocument? dialect empty = some {} := by
    rcases hempty with rfl | rfl <;> simp [Endpoint.ofDocument?, Document.record?, Fields.orElse]
  have hmedia : Media.ofDocument? dialect empty = some {} := by
    rcases hempty with rfl | rfl <;> simp [Media.ofDocument?, Document.record?, Fields.orElse]
  have hscenario : Rehearsal.ofDocument? dialect empty = some {} := by
    rcases hempty with rfl | rfl <;> simp [Rehearsal.ofDocument?, Document.record?, Fields.orElse]
  have hone : ∀ other, Fields.count (before ++ (name, empty) :: after) other ≤ 1 ↔
      Fields.count (before ++ after) other ≤ 1 := by
    intro other
    by_cases h : name = other
    · subst h
      rw [Fields.count_append_cons, Fields.count_eq_zero_iff.2 habsent]
      simp
    · rw [Fields.count_append_cons_of_ne h]
  unfold Fields.count at hone
  simp only [ofDocument?, Document.record?, hone]
  split_ifs
  · simp only [Fields.orElse_append_cons habsent hserver, Fields.orElse_append_cons habsent hmedia,
      Fields.orElse_append_cons habsent hscenario]
  · rfl

/-! ### Writing -/

theorem Endpoint.ofDocument?_toDocument (e : Endpoint) :
    ofDocument? dialect e.toDocument = some e := by
  have hport := (Document.word16?_eq_some_iff _ e.port).2 rfl
  simp [ofDocument?, toDocument, Document.record?, Fields.orElse, Fields.get?_cons,
    Document.text?, hport]

theorem Media.ofDocument?_toDocument (m : Media) : ofDocument? dialect m.toDocument = some m := by
  have hbandwidth := (Document.word32?_eq_some_iff _ m.bandwidth).2 rfl
  have hresolution : (resolutionDocument m.resolution).optional? (Document.pair32? dialect) =
      some m.resolution := by
    rw [resolution_eq_some_iff]
    cases m.resolution with
    | none => rfl
    | some pair => exact ⟨[], rfl, .inr rfl⟩
  have hcodecs : (codecsDocument m.codecs).optional? Document.text? = some m.codecs := by
    rw [codecs_eq_some_iff]
    cases m.codecs <;> rfl
  simp [ofDocument?, toDocument, Document.record?, Fields.orElse, Fields.get?_cons,
    Document.text?, hbandwidth, hresolution, hcodecs]

theorem Rehearsal.ofDocument?_toDocument (r : Rehearsal) :
    ofDocument? dialect r.toDocument = some r := by
  have hcacheEntries := (Document.count?_eq_some_iff _ r.cacheEntries).2 rfl
  have hdelayMode := (DelayMode.ofDocument?_eq_some_iff dialect _ r.delayMode).2 (.inl rfl)
  have hignore := (Document.listOf?_text?_eq_some_iff _ r.ignore).2 rfl
  simp [ofDocument?, toDocument, Document.record?, Fields.orElse, Fields.get?_cons,
    hcacheEntries, hdelayMode, hignore]

theorem ofDocument?_toDocument (c : Config) : ofDocument? dialect c.toDocument = some c := by
  simp [ofDocument?, toDocument, Document.record?, Fields.orElse, Fields.get?_cons,
    Endpoint.ofDocument?_toDocument, Media.ofDocument?_toDocument,
    Rehearsal.ofDocument?_toDocument]

end

/-- **Given fields replace defaults.**  A document that gives part of a configuration, whatever else
is in it, is read as the default configuration with exactly what is given in its place, and no other
document is read at all.  A section without fields is as good as none, and a configuration that is
written is read back. -/
theorem given_fields_replace_defaults (dialect : Dialect) :
    (∀ (p : Partial) (d : Document), p.IsIn dialect d →
        ofDocument? dialect d = some (p.laidOver {})) ∧
      (∀ (d : Document) (c : Config), ofDocument? dialect d = some c →
        ∃ p : Partial, p.IsIn dialect d ∧ c = p.laidOver {}) ∧
      (∀ (name : String) (before after : Fields), (∀ f ∈ before ++ after, f.1 ≠ name) →
        ∀ empty, empty = .table [] ∨ empty = .list [] →
          ofDocument? dialect (.table (before ++ (name, empty) :: after)) =
            ofDocument? dialect (.table (before ++ after))) ∧
      (∀ c : Config, ofDocument? dialect c.toDocument = some c) ∧
      Json.ReadsBack toDocument (ofDocument? Json.dialect) :=
  ⟨fun p _ hp => ofDocument?_eq_some_iff.2 ⟨p, hp, rfl⟩,
    fun _ _ => ofDocument?_eq_some_iff.1,
    fun _ _ _ habsent _ => ofDocument?_empty_section habsent,
    ofDocument?_toDocument,
    Json.readsBack_of_documents ofDocument?_toDocument⟩

/-- Sections in another order, one of them empty, with fields that nobody knows: what is given stands
beside the defaults of all other fields. -/
theorem given_fields_replace_defaults_of_throttle :
    let d : Document := .table [("comment", .unusable),
      ("scenario", .table [("delay_mode", .text "throttle"), ("cache_entries", .natural 0)]),
      ("media", .list []), ("server", .table [("port", .natural 8081), ("Host", .null)])]
    let p : Partial :=
      { server := some { port := some 8081 }, media := some {},
        scenario := some { cacheEntries := some 0, delayMode := some .throttle } }
    p.IsIn Json.dialect d ∧
      p.laidOver {} =
        { server := { port := 8081 }, scenario := { cacheEntries := 0, delayMode := .throttle } } ∧
      ofDocument? Json.dialect d = some (p.laidOver {}) := by
  intro d p
  have hserver : Endpoint.Partial.IsIn Json.dialect { port := some 8081 }
      (.table [("port", .natural 8081), ("Host", .null)]) :=
    ⟨_, .table _, { host := by simp [Fields.Gives]
                    port := ⟨[], _, _, rfl, rfl, by simp⟩ }⟩
  have hmedia : Media.Partial.IsIn Json.dialect {} (.list []) :=
    ⟨_, .list [] (.inr (Nat.zero_le _)), ⟨nofun, nofun, nofun, nofun, nofun⟩⟩
  have hscenario : Rehearsal.Partial.IsIn Json.dialect
      { cacheEntries := some 0, delayMode := some .throttle }
      (.table [("delay_mode", .text "throttle"), ("cache_entries", .natural 0)]) :=
    ⟨_, .table _, { cacheEntries := ⟨[_], _, [], rfl, rfl, by simp⟩
                    delayMode := ⟨[], _, [_], rfl, .inl rfl, by simp⟩
                    ignore := by simp [Fields.Gives] }⟩
  have hp : p.IsIn Json.dialect d :=
    ⟨_, .table _, { server := ⟨[_, _, _], _, [], rfl, hserver, by simp⟩
                    media := ⟨[_, _], _, [_], rfl, hmedia, by simp⟩
                    scenario := ⟨[_], _, [_, _], rfl, hscenario, by simp⟩ }⟩
  exact ⟨hp, rfl, (given_fields_replace_defaults Json.dialect).1 p d hp⟩

end Config

end StreamRehearsal
