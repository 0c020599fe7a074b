import Mathlib.Data.List.Nodup
import StreamRehearsal.Proofs.Playlist.Addresses
import StreamRehearsal.Proofs.Scenario.Length
import StreamRehearsal.Proofs.Text.Decimal

/-! # Adding up a playlist

A player adds up the durations in the text of a playlist to know how long the media is.

* `MediaPlaylist.durations` and `MediaPlaylist.targetDuration?` read the numbers behind two of the
  tags.  `MediaPlaylist.legible` says that with addresses on lines of their own, the text of a
  playlist gives back all that the playlist holds.
* `Scenario.playlist_covers_length` is what the player gets for a scenario: as many segments as the
  nominal length is made of, whose durations add up to it, or no playlist if they are too many
  (`Scenario.no_playlist_of_long_playback`). -/

namespace StreamRehearsal

namespace MediaPlaylist

/-! ### Reading numbers from the text -/

/-- The count behind a tag at the start of a line, up to the first character that is no digit. -/
def tagCount? (tag line : String) : Option UInt64 :=
  if tag.toList.isPrefixOf line.toList then
    Decimal.count? ((line.toList.drop tag.toList.length).takeWhile Char.isDigit)
  else none

/-- The durations in the text of a playlist, in order. -/
def durations (text : String) : List UInt64 := (Lines.ofText text).filterMap (tagCount? "#EXTINF:")

/-- The target duration in the text of a playlist. -/
def targetDuration? (text : String) : Option UInt64 :=
  (Lines.ofText text).findSome? (tagCount? "#EXT-X-TARGETDURATION:")

theorem tagCount?_append (tag : String) (n : UInt64) (rest : String)
    (h : ∀ c ∈ rest.toList.head?, c.isDigit = false) :
    tagCount? tag (tag ++ Decimal.text n.toNat ++ rest) = some n := by
  have hline : (tag ++ Decimal.text n.toNat ++ rest).toList =
      tag.toList ++ (Decimal.digits n.toNat ++ rest.toList) := by
    simp [Decimal.text]
  have hprefix : tag.toList.isPrefixOf (tag.toList ++ (Decimal.digits n.toNat ++ rest.toList)) =
      true :=
    List.isPrefixOf_iff_prefix.2 (List.prefix_append _ _)
  rw [tagCount?, hline, if_pos hprefix, List.drop_left, Decimal.takeWhile_digits_append h,
    Decimal.count?_digits]

/-- Addresses hold no tags. -/
theorem tagCount?_of_isAddress {tag uri : String} (htag : tag.toList.head? = some '#')
    (h : isAddress uri = true) : tagCount? tag uri = none := by
  have hhead : uri.toList.head? ≠ some '#' := by
    simp only [isAddress, Bool.and_eq_true, decide_eq_true_eq] at h
    exact h.2
  refine if_neg fun hprefix => hhead ?_
  obtain ⟨rest, hrest⟩ := List.isPrefixOf_iff_prefix.1 hprefix
  rw [← hrest, List.head?_append, htag]
  rfl

theorem filterMap_tagCount?_entryLines {entries : List MediaEntry}
    (h : ∀ e ∈ entries, isAddress e.uri = true) :
    (entries.flatMap entryLines).filterMap (tagCount? "#EXTINF:") =
      entries.map MediaEntry.duration := by
  induction entries with
  | nil => rfl
  | cons e rest ih =>
      rw [List.forall_mem_cons] at h
      have hduration :
          tagCount? "#EXTINF:" ("#EXTINF:" ++ Decimal.text e.duration.toNat ++ ",") =
            some e.duration :=
        tagCount?_append _ _ _ (by simp)
      have huri : tagCount? "#EXTINF:" e.uri = none := tagCount?_of_isAddress (by decide) h.1
      have hentry : (entryLines e).filterMap (tagCount? "#EXTINF:") = [e.duration] := by
        simp [entryLines, hduration, huri]
      rw [List.flatMap_cons, List.filterMap_append, hentry, ih h.2]
      rfl

theorem durations_text {p : MediaPlaylist}
    (h : ∀ e ∈ p.entries, isAddress e.uri = true ∧ '\n' ∉ e.uri.toList) :
    durations p.text = p.entries.map MediaEntry.duration := by
  have htarget :
      tagCount? "#EXTINF:" ("#EXT-X-TARGETDURATION:" ++ Decimal.text p.targetDuration.toNat) =
        none := by
    simp [tagCount?]
  have hother : tagCount? "#EXTINF:" "#EXTM3U" = none ∧
      tagCount? "#EXTINF:" "#EXT-X-VERSION:3" = none ∧
      tagCount? "#EXTINF:" "#EXT-X-PLAYLIST-TYPE:VOD" = none ∧
      tagCount? "#EXTINF:" "#EXT-X-ENDLIST" = none ∧ tagCount? "#EXTINF:" "" = none := by
    decide
  have hentries := filterMap_tagCount?_entryLines fun e he => (h e he).1
  unfold durations text
  rw [Lines.ofText_text (notMem_lines fun e he => (h e he).2)]
  simp [lines, htarget, hother, hentries]

theorem targetDuration?_text {p : MediaPlaylist}
    (h : ∀ e ∈ p.entries, '\n' ∉ e.uri.toList) :
    targetDuration? p.text = some p.targetDuration := by
  have htarget : tagCount? "#EXT-X-TARGETDURATION:"
      ("#EXT-X-TARGETDURATION:" ++ Decimal.text p.targetDuration.toNat) =
        some p.targetDuration := by
    simpa using tagCount?_append "#EXT-X-TARGETDURATION:" p.targetDuration "" (by simp)
  have hother : tagCount? "#EXT-X-TARGETDURATION:" "#EXTM3U" = none ∧
      tagCount? "#EXT-X-TARGETDURATION:" "#EXT-X-VERSION:3" = none := by
    decide
  unfold targetDuration? text
  rw [Lines.ofText_text (notMem_lines h)]
  simp [lines, htarget, hother]

/-- The text of a playlist gives back what the playlist holds. -/
structure Legible (p : MediaPlaylist) : Prop where
  addresses : addresses p.text = p.entries.map MediaEntry.uri
  durations : durations p.text = p.entries.map MediaEntry.duration
  targetDuration : targetDuration? p.text = some p.targetDuration

theorem legible {p : MediaPlaylist}
    (h : ∀ e ∈ p.entries, isAddress e.uri = true ∧ '\n' ∉ e.uri.toList) : p.Legible where
  addresses := addresses_text h
  durations := durations_text h
  targetDuration := targetDuration?_text fun e he => (h e he).2

/-! ### Playlists of segments -/

theorem legible_ofCount (count length : UInt64) : (ofCount count length).Legible :=
  legible fun _ => isAddress_of_mem_ofCount

theorem segmentName_injective : Function.Injective segmentName := by
  intro i j h
  have hchars := congrArg String.toList h
  rw [Target.toList_segmentName, Target.toList_segmentName, List.append_left_inj] at hchars
  exact Decimal.digits_injective hchars

theorem uris_ofCount (count length : UInt64) :
    (ofCount count length).entries.map MediaEntry.uri =
      (List.range count.toNat).map segmentName := by
  simp [ofCount]

theorem sum_durations_ofCount (count length : UInt64) :
    ((ofCount count length).entries.map fun e => e.duration.toNat).sum =
      count.toNat * length.toNat := by
  have hsame : (ofCount count length).entries.map (fun e => e.duration.toNat) =
      List.replicate count.toNat length.toNat := by
    simp [ofCount, List.map_const', Function.comp_def]
  rw [hsame, List.sum_replicate_nat]

/-- The target duration bounds the durations, also where it cannot be longer than they are. -/
theorem duration_le_targetDuration {count length : UInt64} {e : MediaEntry}
    (h : e ∈ (ofCount count length).entries) :
    e.duration ≤ (ofCount count length).targetDuration := by
  obtain ⟨index, -, rfl⟩ := List.mem_map.1 h
  have hlength := toNat_le_maxCount length
  show length ≤ clip (length.toNat + 1)
  rw [UInt64.le_iff_toNat_le, toNat_clip]
  omega

end MediaPlaylist

namespace Scenario

open MediaPlaylist (segmentName)
open Schedule (slotSum)

/-- **A playlist covers the nominal length.**  The length of any operations is that of the segments
that they take up, clipped, whatever their order, and always a number of whole segments.  If these
are fewer than 2⁵⁸, then the playlist lists exactly these, each once and in order; the durations in
its text add up to the length, and none is longer than the target duration.  If they are more, there
is no playlist. -/
theorem playlist_covers_length (ops : List Operation) :
    let scenario := ofOperations ops
    scenario.length.toNat = min maxCount (segmentSeconds * slotSum ops) ∧
      (∀ other, other.Perm ops → (ofOperations other).length = scenario.length) ∧
      segmentSeconds ∣ scenario.length.toNat ∧
      scenario.segmentCount.toNat * segmentSeconds = scenario.length.toNat ∧
      (2 ^ 58 ≤ scenario.segmentCount.toNat → Server.renditionPlaylist? scenario = none) ∧
      (scenario.segmentCount.toNat < 2 ^ 58 →
        ∃ playlist, Server.renditionPlaylist? scenario = some playlist ∧
          playlist.Legible ∧
          playlist.entries.map MediaEntry.uri =
            (List.range scenario.segmentCount.toNat).map segmentName ∧
          (playlist.entries.map MediaEntry.uri).Nodup ∧
          (playlist.entries.map fun e => e.duration.toNat).sum = scenario.length.toNat ∧
          ∀ e ∈ playlist.entries, e.duration ≤ playlist.targetDuration) := by
  intro scenario
  have hcount : scenario.segmentCount.toNat * segmentSeconds = scenario.length.toNat :=
    segmentCount_mul_segmentSeconds ops
  refine ⟨?_, fun other => totalLength_perm, segmentSeconds_dvd_totalLength ops, hcount,
    Server.renditionPlaylist?_eq_none_iff.2, fun hfits => ?_⟩
  · rw [Nat.mul_comm, Nat.min_comm]
    exact toNat_totalLength ops
  have huris : scenario.listing.entries.map MediaEntry.uri =
      (List.range scenario.segmentCount.toNat).map segmentName :=
    MediaPlaylist.uris_ofCount _ _
  refine ⟨scenario.listing, Server.renditionPlaylist?_eq_some_iff.2 ⟨hfits, rfl⟩,
    MediaPlaylist.legible_ofCount _ _, huris, ?_, ?_, ?_⟩
  · rw [huris]
    exact List.nodup_range.map MediaPlaylist.segmentName_injective
  · exact (MediaPlaylist.sum_durations_ofCount _ _).trans hcount
  · exact fun e => MediaPlaylist.duration_le_targetDuration

/-- A length of 2⁵⁸ segments has no playlist, and so nothing whose durations would add up to it. -/
theorem no_playlist_of_long_playback :
    let scenario := ofOperations [.playback 1441151880758558720]
    scenario.length = 1441151880758558720 ∧ scenario.segmentCount = 288230376151711744 ∧
      Server.renditionPlaylist? scenario = none := by
  decide

/-- Clipped, the length is still a number of whole segments, and the last failure has none. -/
example :
    let scenario := ofOperations [.playback 18446744073709551615, .failure 404]
    scenario.length = 18446744073709551615 ∧ scenario.segmentCount = 3689348814741910323 := by
  decide

end Scenario

end StreamRehearsal
