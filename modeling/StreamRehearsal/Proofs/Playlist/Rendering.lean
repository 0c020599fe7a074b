import StreamRehearsal.Proofs.Playlist.Addresses
import StreamRehearsal.Proofs.Text.Decimal

/-! # Playlists are known by their texts

A playlist is written on lines, two for each of its entries, so it can be told from its text as long
as no part of it holds a line feed.

* `Lines.text_inj` gives the lines of a text back, and `flatMap_injective` cuts lines into blocks of
  one length.
* `StreamVariant.attributes_inj` tells the optional attributes of a variant apart.  Codecs end with
  their line and not with a quotation mark, so they may hold quotation marks and commas.
* `rendering_loses_nothing` puts these together for both sorts of playlists. -/

namespace StreamRehearsal

/-! ### Lines -/

/-- Lines are known by their text. -/
theorem Lines.text_inj {a b : List String} (ha : ∀ line ∈ a, '\n' ∉ line.toList)
    (hb : ∀ line ∈ b, '\n' ∉ line.toList) (h : text a = text b) : a = b := by
  have hlines := congrArg ofText h
  rw [ofText_text ha, ofText_text hb] at hlines
  exact List.append_cancel_right hlines

/-- Blocks of one length are known by what they are put together to. -/
theorem flatMap_injective {α β : Type} {block : α → List β} {size : Nat} (hpos : 0 < size)
    (hsize : ∀ a, (block a).length = size) (hblock : Function.Injective block) :
    Function.Injective fun as : List α => as.flatMap block := by
  have hne : ∀ a, block a ≠ [] := fun a e => by
    have hlength := hsize a
    rw [e, List.length_nil] at hlength
    omega
  intro as bs h
  induction as generalizing bs with
  | nil =>
      cases bs with
      | nil => rfl
      | cons b bs => simp [hne b] at h
  | cons a as ih =>
      cases bs with
      | nil => simp [hne a] at h
      | cons b bs =>
          simp only [List.flatMap_cons] at h
          obtain ⟨hhead, htail⟩ := List.append_inj h ((hsize a).trans (hsize b).symm)
          rw [hblock hhead, ih htail]

/-! ### Media playlists -/

namespace MediaPlaylist

/-- Every address is on one line. -/
def OnLines (p : MediaPlaylist) : Prop := ∀ e ∈ p.entries, '\n' ∉ e.uri.toList

theorem entryLines_injective : Function.Injective entryLines := by
  intro a b h
  obtain ⟨hduration, huri⟩ := List.cons.inj h
  rw [String.append_left_inj, String.append_right_inj] at hduration
  have hsecs : a.duration = b.duration := UInt64.toNat_inj.1 (Decimal.text_injective hduration)
  cases a
  cases b
  cases hsecs
  cases huri
  rfl

/-- The lines of a playlist tell it apart from every other, whatever its addresses are. -/
theorem lines_injective : Function.Injective lines := by
  intro p q h
  have hlines := List.append_cancel_right h
  obtain ⟨htags, hentries⟩ := List.append_inj hlines rfl
  have htag : "#EXT-X-TARGETDURATION:" ++ Decimal.text p.targetDuration.toNat =
      "#EXT-X-TARGETDURATION:" ++ Decimal.text q.targetDuration.toNat := by
    simpa using htags
  rw [String.append_right_inj] at htag
  have htarget : p.targetDuration = q.targetDuration :=
    UInt64.toNat_inj.1 (Decimal.text_injective htag)
  have hsame : p.entries = q.entries :=
    flatMap_injective Nat.two_pos (fun _ => rfl) entryLines_injective hentries
  cases p
  cases q
  cases htarget
  cases hsame
  rfl

end MediaPlaylist

/-! ### Master playlists -/

namespace StreamVariant

theorem codecsPart_injective : Function.Injective codecsPart := by
  intro a b h
  cases a with
  | none =>
      cases b with
      | none => rfl
      | some codecs => simp [codecsPart, ← String.toList_inj] at h
  | some codecs =>
      cases b with
      | none => simp [codecsPart, ← String.toList_inj] at h
      | some codecs' =>
          simp only [codecsPart, String.append_left_inj, String.append_right_inj] at h
          rw [h]

theorem head?_codecsPart (codecs : Option String) :
    ∀ c ∈ (codecsPart codecs).toList.head?, c.isDigit = false := by
  cases codecs with
  | none => simp [codecsPart]
  | some codecs => simp [codecsPart]

theorem resolutionPart_append_ne (width height : UInt32) (codecs codecs' : Option String) :
    resolutionPart (some (width, height)) ++ codecsPart codecs ≠ codecsPart codecs' := by
  cases codecs' with
  | none => simp [resolutionPart, codecsPart, ← String.toList_inj]
  | some codecs' => simp [resolutionPart, codecsPart, ← String.toList_inj]

/-- The optional attributes of a variant are known by what they are put together to. -/
theorem attributes_inj {r r' : Option (UInt32 × UInt32)} {c c' : Option String}
    (h : resolutionPart r ++ codecsPart c = resolutionPart r' ++ codecsPart c') :
    r = r' ∧ c = c' := by
  have hnone : ∀ codecs, resolutionPart none ++ codecsPart codecs = codecsPart codecs :=
    fun codecs => String.empty_append
  cases r with
  | none =>
      rw [hnone] at h
      cases r' with
      | none =>
          rw [hnone] at h
          exact ⟨rfl, codecsPart_injective h⟩
      | some size => exact absurd h.symm (resolutionPart_append_ne size.1 size.2 c' c)
  | some size =>
      obtain ⟨width, height⟩ := size
      cases r' with
      | none =>
          rw [hnone] at h
          exact absurd h (resolutionPart_append_ne width height c c')
      | some size' =>
          obtain ⟨width', height'⟩ := size'
          simp only [resolutionPart, String.append_assoc, String.append_right_inj] at h
          obtain ⟨hwidth, hrest⟩ := Decimal.text_append_inj (by simp) (by simp) h
          rw [String.append_right_inj] at hrest
          obtain ⟨hheight, hcodecs⟩ :=
            Decimal.text_append_inj (head?_codecsPart c) (head?_codecsPart c') hrest
          rw [UInt32.toNat_inj.1 hwidth, UInt32.toNat_inj.1 hheight, codecsPart_injective hcodecs]
          exact ⟨rfl, rfl⟩

theorem head?_attributes (resolution : Option (UInt32 × UInt32)) (codecs : Option String) :
    ∀ c ∈ (resolutionPart resolution ++ codecsPart codecs).toList.head?, c.isDigit = false := by
  cases resolution with
  | none => simpa [resolutionPart] using head?_codecsPart codecs
  | some size => simp [resolutionPart]

theorem lines_injective : Function.Injective lines := by
  intro v w h
  obtain ⟨htag, hrest⟩ := List.cons.inj h
  have huri : v.uri = w.uri := (List.cons.inj hrest).1
  rw [String.append_assoc, String.append_assoc, String.append_assoc, String.append_assoc,
    String.append_right_inj] at htag
  obtain ⟨hbandwidth, hattributes⟩ :=
    Decimal.text_append_inj (head?_attributes _ _) (head?_attributes _ _) htag
  obtain ⟨hresolution, hcodecs⟩ := attributes_inj hattributes
  have hbits : v.bandwidth = w.bandwidth := UInt32.toNat_inj.1 hbandwidth
  cases v
  cases w
  cases huri
  cases hbits
  cases hresolution
  cases hcodecs
  rfl

theorem notMem_resolutionPart (resolution : Option (UInt32 × UInt32)) :
    '\n' ∉ (resolutionPart resolution).toList := by
  cases resolution with
  | none => simp [resolutionPart]
  | some size => simp [resolutionPart]

theorem notMem_codecsPart {codecs : Option String} (h : ∀ text ∈ codecs, '\n' ∉ text.toList) :
    '\n' ∉ (codecsPart codecs).toList := by
  cases codecs with
  | none => simp [codecsPart]
  | some text => simp [codecsPart, h text rfl]

end StreamVariant

namespace MasterPlaylist

/-- Every address is on one line, and so are the codecs, where they are given. -/
def OnLines (p : MasterPlaylist) : Prop :=
  ∀ v ∈ p.variants, '\n' ∉ v.uri.toList ∧ ∀ codecs ∈ v.codecs, '\n' ∉ codecs.toList

theorem lines_injective : Function.Injective lines := by
  intro p q h
  have hvariants : p.variants = q.variants :=
    flatMap_injective Nat.two_pos (fun _ => rfl) StreamVariant.lines_injective
      (List.append_cancel_left h)
  cases p
  cases q
  cases hvariants
  rfl

theorem notMem_lines {p : MasterPlaylist} (h : p.OnLines) :
    ∀ line ∈ p.lines, '\n' ∉ line.toList := by
  intro line hline
  simp only [lines, StreamVariant.lines, List.mem_append, List.mem_cons, List.mem_flatMap,
    List.not_mem_nil, or_false] at hline
  obtain (rfl | rfl) | ⟨v, hv, rfl | rfl⟩ := hline
  · decide
  · decide
  · simp [StreamVariant.notMem_resolutionPart, StreamVariant.notMem_codecsPart (h v hv).2]
  · exact (h v hv).1

end MasterPlaylist

/-- **Rendering loses nothing.**  Two media playlists on lines have one text only if they are one
playlist, and so have two master playlists: durations, addresses and attributes, given or not, can be
told from the text, even if an address reads like a tag or codecs read like attributes. -/
theorem rendering_loses_nothing :
    (∀ p q : MediaPlaylist, p.OnLines → q.OnLines → (p.text = q.text ↔ p = q)) ∧
      ∀ p q : MasterPlaylist, p.OnLines → q.OnLines → (p.text = q.text ↔ p = q) := by
  refine ⟨fun p q hp hq => ⟨fun h => ?_, congrArg _⟩, fun p q hp hq => ⟨fun h => ?_, congrArg _⟩⟩
  · apply MediaPlaylist.lines_injective
    exact Lines.text_inj (MediaPlaylist.notMem_lines hp) (MediaPlaylist.notMem_lines hq) h
  · apply MasterPlaylist.lines_injective
    exact Lines.text_inj (MasterPlaylist.notMem_lines hp) (MasterPlaylist.notMem_lines hq) h

/-- Codecs that hold a quotation mark and the text of an attribute are not that attribute, and an
address that reads like the end of a playlist does not end it. -/
theorem rendering_loses_nothing_of_lookalikes :
    let attributes : MasterPlaylist := ⟨[⟨"a", 1, some (2, 3), some "4"⟩]⟩
    let codecs : MasterPlaylist := ⟨[⟨"a", 1, none, some "\",RESOLUTION=2x3,CODECS=\"4"⟩]⟩
    let listed : MediaPlaylist := ⟨6, [⟨5, "#EXT-X-ENDLIST"⟩]⟩
    let ended : MediaPlaylist := ⟨6, []⟩
    (attributes.OnLines ∧ codecs.OnLines ∧ attributes.text ≠ codecs.text) ∧
      listed.OnLines ∧ ended.OnLines ∧ listed.text ≠ ended.text := by
  intro attributes codecs listed ended
  have hattributes : attributes.OnLines := by simp [attributes, MasterPlaylist.OnLines]
  have hcodecs : codecs.OnLines := by simp [codecs, MasterPlaylist.OnLines]
  have hlisted : listed.OnLines := by simp [listed, MediaPlaylist.OnLines]
  have hended : ended.OnLines := by simp [ended, MediaPlaylist.OnLines]
  have hmaster := rendering_loses_nothing.2 attributes codecs hattributes hcodecs
  have hmedia := rendering_loses_nothing.1 listed ended hlisted hended
  exact ⟨⟨hattributes, hcodecs, fun h => absurd (hmaster.1 h) (by decide)⟩, hlisted, hended,
    fun h => absurd (hmedia.1 h) (by decide)⟩

end StreamRehearsal
