import StreamRehearsal.Json.Reader
import StreamRehearsal.Proofs.Json.Lexemes

/-! # Reading written JSON

A document that is written as JSON, on one line or with every part on a line of its own, is read
back as it was.  The lexemes of written text are known; here they become a document again.

* `Recoverable d` says that a document is taken from the front of its lexemes, with two steps for
  each lexeme.  `takeItems_lexemes` and `takeFields_lexemes` go through a list and a table, and
  `recoverable` is the result for all documents.
* `read_chars` puts both stages together.  Since blanks at the end say nothing, text may be ended by
  a line feed. -/

namespace StreamRehearsal.Json

/-- A document is taken from the front of its lexemes. -/
def Recoverable (d : Document) : Prop :=
  ∀ fuel rest, 2 * (lexemes d).length ≤ fuel → takeValue fuel (lexemes d ++ rest) = some (d, rest)

/-! ### Lists -/

theorem takeItems_last {fuel : Nat} {ls rest : List Lexeme} {d : Document}
    (h : takeValue fuel ls = some (d, .rightBracket :: rest)) :
    takeItems (fuel + 1) ls = some ([d], rest) := by
  simp only [takeItems, h]

theorem takeItems_more {fuel : Nat} {ls rest rest' : List Lexeme} {d : Document}
    {items : List Document} (h : takeValue fuel ls = some (d, .comma :: rest))
    (hrest : takeItems fuel rest = some (items, rest')) :
    takeItems (fuel + 1) ls = some (d :: items, rest') := by
  simp only [takeItems, h, hrest]

/-- The items of a list and the bracket that closes it.  One step goes to the list itself, so the
bound is odd. -/
theorem takeItems_lexemes {items : List Document} (hitems : ∀ d ∈ items, Recoverable d)
    {d : Document} (hd : Recoverable d) (rest : List Lexeme) (fuel : Nat)
    (hfuel : 2 * ((lexemes d).length + (itemLexemes items).length) + 1 ≤ fuel) :
    takeItems fuel (lexemes d ++ (itemLexemes items ++ .rightBracket :: rest)) =
      some (d :: items, rest) := by
  induction items generalizing d fuel with
  | nil =>
      obtain ⟨fuel, rfl⟩ := Nat.exists_eq_add_one_of_ne_zero (show fuel ≠ 0 by omega)
      exact takeItems_last (hd fuel _ (by omega))
  | cons next items ih =>
      obtain ⟨hnext, hitems⟩ := List.forall_mem_cons.1 hitems
      simp only [itemLexemes, List.length_cons, List.length_append] at hfuel
      obtain ⟨fuel, rfl⟩ := Nat.exists_eq_add_one_of_ne_zero (show fuel ≠ 0 by omega)
      have hrest := ih hitems hnext fuel (by omega)
      simp only [itemLexemes, List.cons_append, List.append_assoc]
      exact takeItems_more (hd fuel _ (by omega)) hrest

/-! ### Tables -/

theorem takeFields_last {fuel : Nat} {ls rest : List Lexeme} {key : String} {d : Document}
    (h : takeValue fuel ls = some (d, .rightBrace :: rest)) :
    takeFields (fuel + 1) (.text key :: .colon :: ls) = some ([(some key, d)], rest) := by
  simp only [takeFields, key?, h]

theorem takeFields_more {fuel : Nat} {ls rest rest' : List Lexeme} {key : String} {d : Document}
    {fields : List (Option String × Document)} (h : takeValue fuel ls = some (d, .comma :: rest))
    (hrest : takeFields fuel rest = some (fields, rest')) :
    takeFields (fuel + 1) (.text key :: .colon :: ls) = some ((some key, d) :: fields, rest') := by
  simp only [takeFields, key?, h, hrest]

/-- The fields of a table, all of whose keys name strings. -/
def named (fields : List (String × Document)) : List (Option String × Document) :=
  fields.map fun f => (some f.1, f.2)

/-- A list of things that are read back one by one is read back as a whole. -/
theorem mapM_map_of_inverse {α β : Type} {write : α → β} {read? : β → Option α}
    (hread : ∀ a, read? (write a) = some a) (as : List α) :
    (as.map write).mapM read? = some as := by
  induction as with
  | nil => rfl
  | cons a as ih =>
      rw [List.map_cons, List.mapM_cons, hread, ih]
      rfl

theorem ofFields_named (fields : List (String × Document)) :
    ofFields (named fields) = .table fields := by
  have hnamed : (named fields).mapM (fun f => f.1.map fun key => (key, f.2)) = some fields := by
    refine mapM_map_of_inverse ?_ fields
    intro f
    rfl
  simp only [ofFields, hnamed]

/-- The fields of a table and the brace that closes it. -/
theorem takeFields_lexemes {fields : List (String × Document)}
    (hfields : ∀ f ∈ fields, Recoverable f.2) (key : String) {d : Document} (hd : Recoverable d)
    (rest : List Lexeme) (fuel : Nat)
    (hfuel : 2 * ((lexemes d).length + (fieldLexemes fields).length) + 1 ≤ fuel) :
    takeFields fuel (.text key :: .colon ::
        (lexemes d ++ (fieldLexemes fields ++ .rightBrace :: rest))) =
      some (named ((key, d) :: fields), rest) := by
  induction fields generalizing key d fuel with
  | nil =>
      obtain ⟨fuel, rfl⟩ := Nat.exists_eq_add_one_of_ne_zero (show fuel ≠ 0 by omega)
      exact takeFields_last (hd fuel _ (by omega))
  | cons next fields ih =>
      obtain ⟨hnext, hfields⟩ := List.forall_mem_cons.1 hfields
      simp only [fieldLexemes, List.length_cons, List.length_append] at hfuel
      obtain ⟨fuel, rfl⟩ := Nat.exists_eq_add_one_of_ne_zero (show fuel ≠ 0 by omega)
      have hrest := ih hfields next.1 hnext fuel (by omega)
      simp only [fieldLexemes, List.cons_append, List.append_assoc]
      exact takeFields_more (hd fuel _ (by omega)) hrest

/-! ### Documents -/

theorem takeValue_list {fuel : Nat} {ls rest : List Lexeme} {items : List Document}
    (hhead : ls.head? ≠ some .rightBracket) (h : takeItems fuel ls = some (items, rest)) :
    takeValue (fuel + 1) (.leftBracket :: ls) = some (.list items, rest) := by
  unfold takeValue
  simp only [h]
  split
  next => exact absurd rfl hhead
  next => rfl

theorem takeValue_table {fuel : Nat} {ls rest : List Lexeme}
    {fields : List (Option String × Document)} (hhead : ls.head? ≠ some .rightBrace)
    (h : takeFields fuel ls = some (fields, rest)) :
    takeValue (fuel + 1) (.leftBrace :: ls) = some (ofFields fields, rest) := by
  unfold takeValue
  simp only [h]
  split
  next => exact absurd rfl hhead
  next => rfl

/-- A document has a first lexeme, and it is not the bracket that closes a list. -/
theorem exists_lexemes_eq_cons (d : Document) :
    ∃ l ls, lexemes d = l :: ls ∧ l ≠ .rightBracket := by
  cases d with
  | null => exact ⟨_, _, rfl, nofun⟩
  | boolean b => exact ⟨_, _, rfl, nofun⟩
  | number n => exact ⟨_, _, rfl, nofun⟩
  | text s => exact ⟨_, _, rfl, nofun⟩
  | unusable => exact ⟨_, _, rfl, nofun⟩
  | list items =>
      cases items with
      | nil => exact ⟨_, _, rfl, nofun⟩
      | cons d items => exact ⟨_, _, rfl, nofun⟩
  | table fields =>
      cases fields with
      | nil => exact ⟨_, _, rfl, nofun⟩
      | cons f fields => exact ⟨_, _, rfl, nofun⟩

theorem head?_lexemes_append_ne (d : Document) (rest : List Lexeme) :
    (lexemes d ++ rest).head? ≠ some .rightBracket := by
  obtain ⟨l, ls, hls, hl⟩ := exists_lexemes_eq_cons d
  rw [hls]
  exact fun h => hl (Option.some.inj h)

theorem exists_fuel_eq_succ {d : Document} {fuel : Nat} (h : 2 * (lexemes d).length ≤ fuel) :
    ∃ n, fuel = n + 1 := by
  obtain ⟨l, ls, hls, -⟩ := exists_lexemes_eq_cons d
  rw [hls, List.length_cons] at h
  exact Nat.exists_eq_add_one_of_ne_zero (by omega)

theorem recoverable_of_single {d : Document} {l : Lexeme} (hl : lexemes d = [l])
    (h : ∀ fuel rest, takeValue (fuel + 1) (l :: rest) = some (d, rest)) : Recoverable d := by
  intro fuel rest hfuel
  obtain ⟨fuel, rfl⟩ := exists_fuel_eq_succ hfuel
  rw [hl]
  exact h fuel rest

/-- **Every document is taken from the front of its lexemes.** -/
theorem recoverable (d : Document) : Recoverable d := by
  induction d using Document.inductionOn with
  | null => exact recoverable_of_single rfl fun _ _ => rfl
  | boolean b => exact recoverable_of_single rfl fun _ _ => rfl
  | number n => exact recoverable_of_single rfl fun _ _ => rfl
  | text s => exact recoverable_of_single rfl fun _ _ => rfl
  | unusable => exact recoverable_of_single rfl fun _ _ => rfl
  | list items ih =>
      intro fuel rest hfuel
      obtain ⟨fuel, rfl⟩ := exists_fuel_eq_succ hfuel
      cases items with
      | nil => rfl
      | cons d items =>
          obtain ⟨hd, hitems⟩ := List.forall_mem_cons.1 ih
          simp only [lexemes, List.length_append, List.length_cons, List.length_nil] at hfuel
          have htaken := takeItems_lexemes hitems hd rest fuel (by omega)
          have hlist := takeValue_list (head?_lexemes_append_ne d _) htaken
          simpa [lexemes] using hlist
  | table fields ih =>
      intro fuel rest hfuel
      obtain ⟨fuel, rfl⟩ := exists_fuel_eq_succ hfuel
      cases fields with
      | nil => rfl
      | cons f fields =>
          obtain ⟨hf, hfields⟩ := List.forall_mem_cons.1 ih
          simp only [lexemes, List.length_append, List.length_cons, List.length_nil] at hfuel
          have htaken := takeFields_lexemes hfields f.1 hf rest fuel (by omega)
          have htable := takeValue_table (by simp) htaken
          rw [ofFields_named] at htable
          simpa [lexemes] using htable

/-! ### Texts -/

theorem ofLexemes_lexemes (d : Document) : ofLexemes (lexemes d) = some d := by
  have htaken := recoverable d (2 * (lexemes d).length + 1) [] (Nat.le_succ _)
  rw [List.append_nil] at htaken
  simp only [ofLexemes, htaken]

/-- **A document is read back from its text**, in every layout that sets its parts apart with
blanks, and with blanks at the end. -/
theorem read_chars {layout : Layout} (hlayout : layout.IsBlank) (d : Document) {bs : List Char}
    (hbs : Blanks bs) : read (String.ofList (chars layout 0 d ++ bs)) = some d := by
  rw [read, String.toList_ofList, hlayout.all_chars d hbs]
  exact ofLexemes_lexemes d

theorem read_compact (d : Document) : read (compact d) = some d := by
  have hblanks : Blanks [] := nofun
  have hread := read_chars Layout.isBlank_compact d hblanks
  rwa [List.append_nil] at hread

theorem read_pretty (d : Document) : read (pretty d) = some d := by
  have hblanks : Blanks [] := nofun
  have hread := read_chars Layout.isBlank_pretty d hblanks
  rwa [List.append_nil] at hread

/-- The text may be ended by a line feed. -/
theorem read_pretty_append (d : Document) : read (pretty d ++ "\n") = some d := by
  have hchars : pretty d ++ "\n" = String.ofList (chars .pretty 0 d ++ ['\n']) := by
    rw [pretty, String.ofList_append]
  rw [hchars]
  exact read_chars Layout.isBlank_pretty d (blanks_newLine 0)

end StreamRehearsal.Json
