/-! # Lines

Playlists and reports are lists of lines.

* `Lines.text lines` ends each line with a line feed, the last one included, and `Lines.ofText` cuts
  a text at its line feeds; `ofText_text` says that this gives the lines back.
* `Lines.pad width s` fills a column with blanks on the right; longer text is left as it is. -/

namespace StreamRehearsal.Lines

/-- The text of a list of lines, each ended by a line feed. -/
def text (lines : List String) : String := String.join (lines.map (· ++ "\n"))

@[simp] theorem text_cons (line : String) (rest : List String) :
    text (line :: rest) = line ++ "\n" ++ text rest := by
  simp [text]

/-- The lines of a text; what follows the last line feed is one of them. -/
def ofText (text : String) : List String := (text.toList.splitOn '\n').map String.ofList

theorem ofText_text {lines : List String} (h : ∀ line ∈ lines, '\n' ∉ line.toList) :
    ofText (text lines) = lines ++ [""] := by
  induction lines with
  | nil => rfl
  | cons line rest ih =>
      rw [List.forall_mem_cons] at h
      have hrest := ih h.2
      have hchars : (text (line :: rest)).toList = line.toList ++ '\n' :: (text rest).toList := by
        simp
      unfold ofText at hrest ⊢
      rw [hchars, List.splitOn_append_cons_self_of_not_mem h.1, List.map_cons, hrest]
      simp

/-- A text with blanks added on the right until it is this wide. -/
def pad (width : Nat) (s : String) : String :=
  s ++ String.ofList (List.replicate (width - s.toList.length) ' ')

end StreamRehearsal.Lines
