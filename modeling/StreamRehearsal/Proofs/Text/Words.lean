import Mathlib.Tactic.SplitIfs
import StreamRehearsal.Text.Decimal
import StreamRehearsal.Text.Lines
import StreamRehearsal.Text.Quoted

/-! # Words and sections

How a reader takes apart a text that is laid out in lines.

* `Lines.words` are the words of a line.  `Lines.words_append` puts lines together word by word, and
  indenting a line or padding it adds no word.
* `Lines.sections` are the lines between blank lines; `Lines.sections_text_append` finds the first of
  them.
* `Decimal.marked?` reads a word that is a number with a mark behind it, such as `5s`.
* A quoted character never breaks a line: `Quoted.lineFeed_notMem_character`. -/

namespace StreamRehearsal

namespace Lines

/-! ### Words -/

/-- The words of a line: what stands between its blanks. -/
def words (line : String) : List String :=
  ((line.toList.splitOn ' ').filter (· ≠ [])).map String.ofList

@[simp] theorem words_empty : words "" = [] := rfl

theorem words_append (s t : String) : words (s ++ " " ++ t) = words s ++ words t := by
  have hchars : (s ++ " " ++ t).toList = s.toList ++ ' ' :: t.toList := by simp
  unfold words
  rw [hchars, List.splitOn_append_cons_self, List.filter_append, List.map_append]

theorem words_eq_singleton {s : String} (hne : s ≠ "") (h : ' ' ∉ s.toList) : words s = [s] := by
  have hchars : s.toList ≠ [] := by simpa using hne
  unfold words
  rw [List.splitOn_eq_singleton h]
  simp [hchars]

/-- A word at the front of a line. -/
theorem words_cons {s : String} (hne : s ≠ "") (h : ' ' ∉ s.toList) (t : String) :
    words (s ++ " " ++ t) = s :: words t := by
  rw [words_append, words_eq_singleton hne h]
  rfl

@[simp] theorem words_indent (s : String) : words ("  " ++ s) = words s := by
  have hindent : "  " ++ s = "" ++ " " ++ ("" ++ " " ++ s) := by
    simp [← String.toList_inj]
  rw [hindent, words_append, words_append]
  rfl

theorem words_blanks (s : String) (n : Nat) :
    words (s ++ String.ofList (List.replicate n ' ')) = words s := by
  induction n generalizing s with
  | zero => simp
  | succ n ih =>
      have hblank : s ++ String.ofList (List.replicate (n + 1) ' ') =
          s ++ " " ++ String.ofList (List.replicate n ' ') := by
        simp [← String.toList_inj, List.replicate_succ]
      rw [hblank, ih]
      simpa using words_append s ""

@[simp] theorem words_pad (width : Nat) (s : String) : words (pad width s) = words s :=
  words_blanks s _

/-! ### Sections -/

/-- The sections of a text: its lines, cut at the blank ones. -/
def sections (text : String) : List (List String) := (ofText text).splitOn ""

/-- The text is one line, and not a blank one. -/
def IsFilled (line : String) : Prop := line ≠ "" ∧ '\n' ∉ line.toList

/-- The last line feed has nothing behind it, which counts as a section without lines. -/
theorem sections_text {a : List String} (h : ∀ line ∈ a, IsFilled line) :
    sections (text a) = [a, []] := by
  rw [sections, ofText_text fun line hline => (h line hline).2]
  exact List.splitOn_append_cons_self_of_not_mem (fun hblank => (h "" hblank).1 rfl) []

/-- No line is broken where lines are put together with a blank one between them. -/
theorem lineFeed_notMem_append {a rest : List String} (h : ∀ line ∈ a, IsFilled line)
    (hrest : ∀ line ∈ rest, '\n' ∉ line.toList) :
    ∀ line ∈ a ++ "" :: rest, '\n' ∉ line.toList := by
  intro line hline
  rcases List.mem_append.1 hline with hline | hline
  · exact (h line hline).2
  · rcases List.mem_cons.1 hline with rfl | hline
    · exact List.not_mem_nil
    · exact hrest line hline

/-- A section ends at the first blank line. -/
theorem sections_text_append {a rest : List String} (h : ∀ line ∈ a, IsFilled line)
    (hrest : ∀ line ∈ rest, '\n' ∉ line.toList) :
    sections (text (a ++ "" :: rest)) = a :: sections (text rest) := by
  rw [sections, sections, ofText_text (lineFeed_notMem_append h hrest), ofText_text hrest,
    List.append_assoc]
  exact List.splitOn_append_cons_self_of_not_mem (fun hblank => (h "" hblank).1 rfl) _

end Lines

namespace Decimal

/-! ### Numbers with a mark -/

/-- The number, at most `limit`, that stands in front of a mark. -/
def marked? (limit : Nat) (mark word : String) : Option Nat :=
  if word.toList.dropWhile Char.isDigit = mark.toList then
    read? limit (word.toList.takeWhile Char.isDigit)
  else none

theorem marked?_append {limit n : Nat} {mark : String} (hn : n ≤ limit)
    (h : ∀ c ∈ mark.toList.head?, c.isDigit = false) :
    marked? limit mark (text n ++ mark) = some n := by
  have hchars : (text n ++ mark).toList = digits n ++ mark.toList := by simp [text]
  unfold marked?
  rw [hchars, dropWhile_digits_append h, takeWhile_digits_append h, if_pos rfl, read?_digits hn]

end Decimal

namespace Quoted

/-! ### Quoted characters -/

theorem exists_digitChar_of_mem_toDigits {base n : Nat} (hbase : 1 < base) {c : Char}
    (h : c ∈ Nat.toDigits base n) : ∃ d < base, c = Nat.digitChar d := by
  induction n using Nat.strongRecOn with
  | ind n ih =>
      by_cases hn : n < base
      · rw [Nat.toDigits_of_lt_base hn] at h
        exact ⟨n, hn, List.mem_singleton.1 h⟩
      · rw [Nat.toDigits_of_base_le hbase (Nat.le_of_not_lt hn)] at h
        rcases List.mem_append.1 h with h | h
        · exact ih (n / base) (Nat.div_lt_self (by omega) hbase) h
        · exact ⟨n % base, Nat.mod_lt n (by omega), List.mem_singleton.1 h⟩

theorem lineFeed_notMem_codePoint (c : Char) : '\n' ∉ codePoint c := by
  have hdigit : ∀ d < 16, '\n' ≠ Nat.digitChar d := by decide
  have hhex : '\n' ∉ Nat.toDigits 16 c.toNat := by
    intro h
    obtain ⟨d, hlt, hd⟩ := exists_digitChar_of_mem_toDigits (by decide) h
    exact hdigit d hlt hd
  simp [codePoint, hhex]

theorem lineFeed_notMem_escape (mark c : Char) : '\n' ∉ escape mark c := by
  unfold escape
  split_ifs with _ _ _ hbreak
  · decide
  · decide
  · decide
  · decide
  · simp [Ne.symm hbreak]
  · exact lineFeed_notMem_codePoint c
  · simp [Ne.symm hbreak]

theorem lineFeed_notMem_character (c : Char) : '\n' ∉ (character c).toList := by
  have hescape := lineFeed_notMem_escape '\'' c
  simp [character, between, hescape]

end Quoted

end StreamRehearsal
