import StreamRehearsal.Proofs.Playlist.Capacity

/-! # Following a playlist

A player gets the text of a playlist.  The lines of it that are neither blank nor tags are addresses
relative to the directory that the playlist is in, and the player asks for one after the other.

* `MediaPlaylist.addresses_text` reads back the addresses that were written, whatever the tags
  around them are.
* `Target.ofPath_segmentName` and `Scenario.resolveSegment_text` are the way back from an address to
  the segment with its index.
* `addresses_lead_to_segments` is the whole way, from the playlist of any directory to the treatment
  of each of its segments.  The way ends at once where there is no playlist, because it would be too
  large (`no_playlist_of_too_many_segments`). -/

namespace StreamRehearsal

/-! ### Reading the text -/

namespace MediaPlaylist

/-- Whether a line of a playlist is an address: it is neither blank nor a tag. -/
def isAddress (line : String) : Bool := line ≠ "" && line.toList.head? ≠ some '#'

/-- The addresses in the text of a playlist, in order. -/
def addresses (text : String) : List String := (Lines.ofText text).filter isAddress

theorem notMem_lines {p : MediaPlaylist} (h : ∀ e ∈ p.entries, '\n' ∉ e.uri.toList) :
    ∀ line ∈ p.lines, '\n' ∉ line.toList := by
  intro line hline
  simp only [lines, entryLines, List.mem_append, List.mem_cons, List.mem_flatMap,
    List.not_mem_nil, or_false] at hline
  obtain ((rfl | rfl | rfl | rfl) | ⟨e, he, rfl | rfl⟩) | rfl := hline
  · decide
  · decide
  · simp
  · decide
  · simp
  · exact h e he
  · decide

/-- Everything before the first segment and after the last is a tag or blank. -/
theorem filter_isAddress_lines (p : MediaPlaylist) :
    (p.lines ++ [""]).filter isAddress = (p.entries.flatMap entryLines).filter isAddress := by
  have htarget : isAddress ("#EXT-X-TARGETDURATION:" ++ Decimal.text p.targetDuration.toNat) =
      false := by
    simp [isAddress]
  have hother : isAddress "#EXTM3U" = false ∧ isAddress "#EXT-X-VERSION:3" = false ∧
      isAddress "#EXT-X-PLAYLIST-TYPE:VOD" = false ∧ isAddress "#EXT-X-ENDLIST" = false ∧
      isAddress "" = false := by
    decide
  simp [lines, htarget, hother]

theorem filter_isAddress_entryLines {entries : List MediaEntry}
    (h : ∀ e ∈ entries, isAddress e.uri = true) :
    (entries.flatMap entryLines).filter isAddress = entries.map MediaEntry.uri := by
  induction entries with
  | nil => rfl
  | cons e rest ih =>
      rw [List.forall_mem_cons] at h
      have htag : isAddress ("#EXTINF:" ++ Decimal.text e.duration.toNat ++ ",") = false := by
        simp [isAddress]
      have hentry : (entryLines e).filter isAddress = [e.uri] := by
        simp [entryLines, htag, h.1]
      rw [List.flatMap_cons, List.filter_append, hentry, ih h.2]
      rfl

/-- **A player reads the addresses that were written**, as long as each is an address on a line of
its own. -/
theorem addresses_text {p : MediaPlaylist}
    (h : ∀ e ∈ p.entries, isAddress e.uri = true ∧ '\n' ∉ e.uri.toList) :
    addresses p.text = p.entries.map MediaEntry.uri := by
  unfold addresses text
  rw [Lines.ofText_text (notMem_lines fun e he => (h e he).2), filter_isAddress_lines,
    filter_isAddress_entryLines fun e he => (h e he).1]

/-! ### Playlists of segments -/

theorem isAddress_segmentName (index : Nat) : isAddress (segmentName index) = true := by
  have htag : (segmentName index).toList.head? ≠ some '#' := by
    intro e
    exact Target.notMem_segmentName (by decide) index (List.mem_of_head? e)
  simp [isAddress, Target.segmentName_ne_empty index, htag]

theorem isAddress_of_mem_ofCount {count length : UInt64} {e : MediaEntry}
    (h : e ∈ (ofCount count length).entries) : isAddress e.uri = true ∧ '\n' ∉ e.uri.toList := by
  obtain ⟨index, -, rfl⟩ := List.mem_map.1 h
  exact ⟨isAddress_segmentName index, Target.notMem_segmentName (by decide) index⟩

theorem addresses_ofCount (count length : UInt64) :
    addresses (ofCount count length).text = (ofCount count length).entries.map MediaEntry.uri :=
  addresses_text fun _ => isAddress_of_mem_ofCount

theorem getElem?_entries_ofCount {count index : UInt64} (h : index < count) (length : UInt64) :
    (ofCount count length).entries[index.toNat]? = some ⟨length, segmentName index.toNat⟩ := by
  have hlt : index.toNat < count.toNat := UInt64.lt_iff_toNat_lt.1 h
  simp [ofCount, hlt]

end MediaPlaylist

/-! ### From an address to the segment -/

open MediaPlaylist (segmentName)

theorem SegmentName.index?_text (index : UInt64) :
    index? (Decimal.text index.toNat) = some index := by
  unfold index? Decimal.text
  rw [String.toList_ofList, Decimal.count?_digits]

theorem Scenario.resolveSegment_text (s : Scenario) (index : UInt64) :
    s.resolveSegment (Decimal.text index.toNat) = .ok (s.timeline.resolve index .nominal) := by
  unfold resolveSegment Timeline.resolveName
  rw [SegmentName.index?_text]

theorem Target.ofPath_segmentName (dir : String) {ignore : List String} {index : Nat}
    (h : segmentName index ∉ ignore) :
    ofPath (dir ++ "/" ++ segmentName index) ignore =
      ⟨if dir = "" then "/" else dir, .segment (Decimal.text index)⟩ := by
  rw [ofPath_append dir (segmentName_ne_empty index) (notMem_segmentName (by decide) index),
    Kind.ofName_segmentName h]

theorem Target.ofPath_renditionName (dir : String) {ignore : List String}
    (h : renditionName ∉ ignore) :
    ofPath (dir ++ "/" ++ renditionName) ignore =
      ⟨if dir = "" then "/" else dir, .renditionPlaylist⟩ := by
  rw [ofPath_append dir (by decide) (by decide), Kind.ofName_renditionName h]

/-- **A playlist leads to its segments.**  Whatever the directory is, if there are fewer than 2⁵⁸
segments, then the playlist in it lists each segment of the scenario once and in order, its text has
these addresses, and each address in the same directory is a request for the segment with that index,
treated as the timeline says.  If there are more, there is no playlist. -/
theorem addresses_lead_to_segments (dir : String) (ignore : List String)
    (hrendition : renditionName ∉ ignore) (hsegments : ∀ index, segmentName index ∉ ignore) :
    let target := Target.ofPath (dir ++ "/" ++ renditionName) ignore
    let scenario := Scenario.compile target.scenario
    target.kind = .renditionPlaylist ∧
      (2 ^ 58 ≤ scenario.segmentCount.toNat → Server.renditionPlaylist? scenario = none) ∧
      (scenario.segmentCount.toNat < 2 ^ 58 →
        ∃ playlist, Server.renditionPlaylist? scenario = some playlist ∧
          playlist.entries.length = scenario.segmentCount.toNat ∧
          MediaPlaylist.addresses playlist.text = playlist.entries.map MediaEntry.uri ∧
          ∀ index < scenario.segmentCount, ∃ entry stem,
            playlist.entries[index.toNat]? = some entry ∧
            Target.ofPath (dir ++ "/" ++ entry.uri) ignore = ⟨target.scenario, .segment stem⟩ ∧
            SegmentName.index? stem = some index ∧
            scenario.resolveSegment stem = .ok (scenario.timeline.resolve index .nominal)) := by
  intro target scenario
  have htarget := Target.ofPath_renditionName dir hrendition
  have hscenario : target.scenario = if dir = "" then "/" else dir :=
    congrArg Target.scenario htarget
  refine ⟨congrArg Target.kind htarget, Server.renditionPlaylist?_eq_none_iff.2, fun hcount => ?_⟩
  refine ⟨scenario.listing, Server.renditionPlaylist?_eq_some_iff.2 ⟨hcount, rfl⟩,
    MediaPlaylist.length_entries_ofCount _ _, MediaPlaylist.addresses_ofCount _ _,
    fun index hindex => ?_⟩
  refine ⟨_, _, MediaPlaylist.getElem?_entries_ofCount hindex _, ?_,
    SegmentName.index?_text index, scenario.resolveSegment_text index⟩
  rw [hscenario, Target.ofPath_segmentName dir (hsegments index.toNat)]

/-- A directory with a slash at its end is a scenario string of its own: the last token no longer
has a number in it, and the last segment fails with the default code. -/
theorem addresses_lead_to_segments_of_slash :
    let ignore := ({} : Config).scenario.ignore
    let scenario := Scenario.compile "/p12-e404/"
    renditionName ∉ ignore ∧ (∀ index, segmentName index ∉ ignore) ∧
      scenario.segmentCount.toNat < 2 ^ 58 ∧
      ∃ playlist entry stem, Server.renditionPlaylist? scenario = some playlist ∧
        playlist.entries[3]? = some entry ∧
        Target.ofPath ("/p12-e404/" ++ "/" ++ entry.uri) ignore =
          ⟨"/p12-e404/", .segment stem⟩ ∧
        SegmentName.index? stem = some 3 ∧
        scenario.resolveSegment stem = .ok (.failure 500) := by
  intro ignore scenario
  have hrendition : renditionName ∉ ignore := by decide
  have hsegments : ∀ index, segmentName index ∉ ignore := Target.segmentName_notMem (by decide)
  have htarget : (Target.ofPath ("/p12-e404/" ++ "/" ++ renditionName) ignore).scenario =
      "/p12-e404/" := by
    decide
  have hcount : scenario.segmentCount.toNat < 2 ^ 58 := by decide
  have h := (addresses_lead_to_segments "/p12-e404/" ignore hrendition hsegments).2.2
  rw [htarget] at h
  obtain ⟨playlist, hplaylist, -, -, hentries⟩ := h hcount
  obtain ⟨entry, stem, hentry, hpath, hindex, hresult⟩ := hentries 3 (by decide)
  exact ⟨hrendition, hsegments, hcount, playlist, entry, stem, hplaylist, hentry, hpath, hindex,
    hresult⟩

/-- A directory with a short name can have too many segments for a playlist. -/
theorem no_playlist_of_too_many_segments :
    let ignore := ({} : Config).scenario.ignore
    let target := Target.ofPath ("/p1441151880758558720" ++ "/" ++ renditionName) ignore
    let scenario := Scenario.compile target.scenario
    renditionName ∉ ignore ∧ (∀ index, segmentName index ∉ ignore) ∧
      target.kind = .renditionPlaylist ∧ scenario.segmentCount = 288230376151711744 ∧
      Server.renditionPlaylist? scenario = none :=
  ⟨by decide, Target.segmentName_notMem (by decide), by decide, by decide, by decide⟩

end StreamRehearsal
