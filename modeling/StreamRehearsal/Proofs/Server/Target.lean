import StreamRehearsal.Playlist.Media
import StreamRehearsal.Proofs.Text.Cut
import StreamRehearsal.Server.Target

/-! # Paths put together

A path that is a directory, a slash and a file name comes apart into these two again, whatever the
directory is: it may be empty, be nothing but slashes or end in some.

* `Target.split_append` takes such a path apart, and `Target.ofPath_append` says what it asks for.
* `Target.Kind.ofName_segmentName` and `Target.Kind.ofName_renditionName` are the two kinds of names
  that a playlist leads to, unless the ignore list holds them.
* `Target.segmentName_notMem` is a test for ignore lists: a name without a stem is no segment's. -/

namespace StreamRehearsal

namespace Target

/-! ### A directory and a name -/

theorem split_append (dir : String) {name : String} (hne : name ≠ "") (h : '/' ∉ name.toList) :
    split (dir ++ "/" ++ name) = (if dir = "" then "/" else dir, name) := by
  have hchars : (dir ++ "/" ++ name).toList = dir.toList ++ '/' :: name.toList := by simp
  have hne' : name.toList ≠ [] := by simpa using hne
  unfold split
  simp only [hchars, Cut.dropTrailing_append_cons _ hne' h, Cut.cutLast?_append_cons _ _ h]
  by_cases hdir : dir = ""
  · subst hdir
    simp
  · simp [hdir]

theorem ofPath_append (dir : String) {name : String} (hne : name ≠ "") (h : '/' ∉ name.toList)
    (ignore : List String) :
    ofPath (dir ++ "/" ++ name) ignore =
      ⟨if dir = "" then "/" else dir, Kind.ofName name ignore⟩ := by
  unfold ofPath
  rw [split_append dir hne h]

/-! ### The names that playlists lead to -/

open MediaPlaylist (segmentName)

theorem toList_segmentName (index : Nat) :
    (segmentName index).toList = Decimal.digits index ++ ['.', 't', 's'] := by
  simp [segmentName, Decimal.text]

theorem notMem_segmentName {c : Char} (h : c.isDigit = false ∧ c ∉ ['.', 't', 's'])
    (index : Nat) : c ∉ (segmentName index).toList := by
  rw [toList_segmentName, List.mem_append]
  rintro (hc | hc)
  · have := Decimal.isDigit_of_mem_digits hc
    rw [h.1] at this
    exact Bool.false_ne_true this
  · exact h.2 hc

theorem segmentName_ne_empty (index : Nat) : segmentName index ≠ "" := by
  intro e
  have := congrArg String.toList e
  simp [toList_segmentName] at this

theorem stem?_segmentName (index : Nat) :
    stem? (segmentName index).toList = some (Decimal.digits index) := by
  have hcut : Cut.cutLast? '.' (segmentName index).toList =
      some (Decimal.digits index, ['t', 's']) := by
    rw [toList_segmentName]
    exact Cut.cutLast?_append_cons '.' _ (by decide)
  unfold stem?
  rw [hcut]
  exact if_pos ⟨rfl, Decimal.digits_ne_nil index⟩

/-- An ignore list without stems holds no segment's name. -/
theorem segmentName_notMem {ignore : List String} (h : ∀ name ∈ ignore, stem? name.toList = none)
    (index : Nat) : segmentName index ∉ ignore := by
  intro hmem
  have := h _ hmem
  rw [stem?_segmentName] at this
  exact Option.some_ne_none _ this

theorem Kind.ofName_segmentName {ignore : List String} {index : Nat}
    (h : segmentName index ∉ ignore) :
    Kind.ofName (segmentName index) ignore = .segment (Decimal.text index) := by
  unfold Kind.ofName
  rw [if_neg (by simpa using h), stem?_segmentName]
  rfl

theorem Kind.ofName_renditionName {ignore : List String} (h : renditionName ∉ ignore) :
    Kind.ofName renditionName ignore = .renditionPlaylist := by
  have hstem : stem? renditionName.toList = none := by decide
  have hmedia : renditionName ≠ mediaName := by decide
  unfold Kind.ofName
  rw [if_neg (by simpa using h), hstem]
  simp only [if_neg hmedia, if_true]

end Target

end StreamRehearsal
