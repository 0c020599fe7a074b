import StreamRehearsal.Json.Lexeme
import StreamRehearsal.Json.Printer

/-! # The lexemes of written JSON

What is written as JSON falls into the lexemes that were meant, in every layout that sets its parts
apart with blanks.  This is the first half of reading a document back.

* `Json.lexemes d` are the lexemes of a document, whatever its layout, and
  `Document.inductionOn` is induction on its items and fields.
* `Spells cs ls` says that the characters `cs` fall into the lexemes `ls`.  There is one lemma for
  blanks and one for each sort of lexeme.
* A number goes on as long as it can, so what is written after it must end it (`EndsNumber`).
* `Layout.IsBlank` holds of both layouts.  `Layout.IsBlank.legible` says that a written document falls
  into its lexemes, and `Layout.IsBlank.all_chars` that the scanner finds these and no others. -/

namespace StreamRehearsal

/-- Induction on the items of lists and the fields of tables. -/
@[elab_as_elim]
theorem Document.inductionOn {motive : Document → Prop} (d : Document) (null : motive .null)
    (boolean : ∀ b, motive (.boolean b)) (number : ∀ n, motive (.number n))
    (text : ∀ s, motive (.text s))
    (list : ∀ items, (∀ d ∈ items, motive d) → motive (.list items))
    (table : ∀ fields, (∀ f ∈ fields, motive f.2) → motive (.table fields))
    (unusable : motive .unusable) : motive d :=
  @Document.rec motive (fun items => ∀ d ∈ items, motive d)
    (fun fields => ∀ f ∈ fields, motive f.2) (fun f => motive f.2)
    null boolean number text list table unusable
    (List.forall_mem_nil _) (fun _ _ hd hrest => List.forall_mem_cons.2 ⟨hd, hrest⟩)
    (List.forall_mem_nil _) (fun _ _ hf hrest => List.forall_mem_cons.2 ⟨hf, hrest⟩)
    (fun _ _ hd => hd) d

namespace Json

/-! ### The lexemes of a document -/

mutual

/-- The lexemes of a document. -/
def lexemes : Document → List Lexeme
  | .null => [.null]
  | .boolean b => [.boolean b]
  | .number n => [.number n]
  | .text s => [.text s]
  | .list [] => [.leftBracket, .rightBracket]
  | .list (d :: rest) => .leftBracket :: lexemes d ++ itemLexemes rest ++ [.rightBracket]
  | .table [] => [.leftBrace, .rightBrace]
  | .table ((key, d) :: rest) =>
    .leftBrace :: .text key :: .colon :: lexemes d ++ fieldLexemes rest ++ [.rightBrace]
  | .unusable => [.brokenText]

/-- The lexemes of the items of a list after the first. -/
def itemLexemes : List Document → List Lexeme
  | [] => []
  | d :: rest => .comma :: lexemes d ++ itemLexemes rest

/-- The lexemes of the fields of a table after the first. -/
def fieldLexemes : List (String × Document) → List Lexeme
  | [] => []
  | (key, d) :: rest => .comma :: .text key :: .colon :: lexemes d ++ fieldLexemes rest

end

/-! ### Falling into lexemes -/

/-- The characters fall into these lexemes; each takes up one character at least, so their number
bounds the steps. -/
def Spells (cs : List Char) (ls : List Lexeme) : Prop :=
  ∀ fuel, cs.length ≤ fuel → Lexeme.scanMany fuel cs = some ls

/-- Nothing but blanks. -/
def Blanks (cs : List Char) : Prop := ∀ c ∈ cs, isBlank c = true

section

variable {c : Char} {cs rest : List Char} {l : Lexeme} {ls : List Lexeme}

theorem Spells.all_eq (h : Spells cs ls) : Lexeme.all cs = some ls := h cs.length (Nat.le_refl _)

theorem Spells.nil : Spells [] [] := by
  intro fuel _
  cases fuel with
  | zero => rfl
  | succ fuel => rfl

/-- Blanks in front say nothing. -/
theorem Spells.blanks {bs : List Char} (hbs : Blanks bs) (h : Spells cs ls) :
    Spells (bs ++ cs) ls := by
  induction bs with
  | nil => exact h
  | cons c bs ih =>
      obtain ⟨hc, hbs⟩ := List.forall_mem_cons.1 hbs
      intro fuel hfuel
      cases fuel with
      | zero => exact absurd hfuel (Nat.not_succ_le_zero _)
      | succ fuel =>
          have hrest := ih hbs fuel (Nat.le_of_succ_le_succ hfuel)
          simp only [List.cons_append, Lexeme.scanMany, hc, if_true]
          exact hrest

/-- One lexeme in front. -/
theorem Spells.cons (hc : isBlank c = false) (hscan : Lexeme.scan (c :: cs) = some (l, rest))
    (hlength : rest.length ≤ cs.length) (h : Spells rest ls) : Spells (c :: cs) (l :: ls) := by
  intro fuel hfuel
  cases fuel with
  | zero => exact absurd hfuel (Nat.not_succ_le_zero _)
  | succ fuel =>
      have hrest := h fuel (Nat.le_trans hlength (Nat.le_of_succ_le_succ hfuel))
      simp [Lexeme.scanMany, hc, hscan, hrest]

theorem Spells.leftBrace (h : Spells cs ls) : Spells ('{' :: cs) (.leftBrace :: ls) :=
  h.cons (by decide) rfl (Nat.le_refl _)

theorem Spells.rightBrace (h : Spells cs ls) : Spells ('}' :: cs) (.rightBrace :: ls) :=
  h.cons (by decide) rfl (Nat.le_refl _)

theorem Spells.leftBracket (h : Spells cs ls) : Spells ('[' :: cs) (.leftBracket :: ls) :=
  h.cons (by decide) rfl (Nat.le_refl _)

theorem Spells.rightBracket (h : Spells cs ls) : Spells (']' :: cs) (.rightBracket :: ls) :=
  h.cons (by decide) rfl (Nat.le_refl _)

theorem Spells.colon (h : Spells cs ls) : Spells (':' :: cs) (.colon :: ls) :=
  h.cons (by decide) rfl (Nat.le_refl _)

theorem Spells.comma (h : Spells cs ls) : Spells (',' :: cs) (.comma :: ls) :=
  h.cons (by decide) rfl (Nat.le_refl _)

theorem Spells.null (h : Spells cs ls) : Spells (['n', 'u', 'l', 'l'] ++ cs) (.null :: ls) :=
  h.cons (by decide) rfl (by simp; omega)

theorem Spells.boolean_true (h : Spells cs ls) :
    Spells (['t', 'r', 'u', 'e'] ++ cs) (.boolean true :: ls) :=
  h.cons (by decide) rfl (by simp; omega)

theorem Spells.boolean_false (h : Spells cs ls) :
    Spells (['f', 'a', 'l', 's', 'e'] ++ cs) (.boolean false :: ls) :=
  h.cons (by decide) rfl (by simp; omega)

end

/-! ### Text -/

theorem scanUnits_quotationMark (cs : List Char) : scanUnits ('"' :: cs) = some ([], cs) := by
  rw [scanUnits.eq_def]
  rfl

theorem scanUnits_escaped {e c : Char} (he : e ≠ 'u') (hc : escaped? e = some c)
    (cs : List Char) :
    scanUnits ('\\' :: e :: cs) =
      (scanUnits cs).map fun (units, rest) => (.plain c :: units, rest) := by
  have hmark : '\\' ≠ '"' := by decide
  rw [scanUnits.eq_def]
  simp only [if_neg hmark, if_true, if_neg he, hc]
  cases scanUnits cs with
  | none => rfl
  | some taken => rfl

theorem scanUnits_numbered {h₁ h₂ h₃ h₄ : Char} {n : Nat}
    (hn : hexValue? [h₁, h₂, h₃, h₄] = some n) (cs : List Char) :
    scanUnits ('\\' :: 'u' :: h₁ :: h₂ :: h₃ :: h₄ :: cs) =
      (scanUnits cs).map fun (units, rest) => (.unit n :: units, rest) := by
  have hmark : '\\' ≠ '"' := by decide
  rw [scanUnits.eq_def]
  simp only [if_neg hmark, if_true, hn]
  cases scanUnits cs with
  | none => rfl
  | some taken => rfl

theorem scanUnits_plain {c : Char} (hmark : c ≠ '"') (hbackslash : c ≠ '\\')
    (hcontrol : ¬ c.toNat < 0x20) (cs : List Char) :
    scanUnits (c :: cs) = (scanUnits cs).map fun (units, rest) => (.plain c :: units, rest) := by
  rw [scanUnits.eq_def]
  simp only [if_neg hmark, if_neg hbackslash, if_neg hcontrol]
  cases scanUnits cs with
  | none => rfl
  | some taken => rfl

theorem hexValue?_hexByte {n : Nat} (h : n < 0x20) :
    hexValue? ('0' :: '0' :: hexByte n) = some n := by
  revert n
  decide

/-- A number below that of all surrogates stands for its character. -/
theorem characters?_unit {n : Nat} (h : n < 0xd800) (units : List TextUnit) :
    characters? (.unit n :: units) = (characters? units).map (Char.ofNat n :: ·) := by
  have hhigh : isHighSurrogate n = false := by
    simp [isHighSurrogate]
    omega
  have hlow : isLowSurrogate n = false := by
    simp [isLowSurrogate]
    omega
  rw [characters?.eq_def]
  simp [hhigh, hlow]

/-- A character stands in text with a letter of its own, by its number, or as it is. -/
theorem escape_cases (c : Char) :
    (∃ e, e ≠ 'u' ∧ escaped? e = some c ∧ escape c = ['\\', e]) ∨
      (c.toNat < 0x20 ∧ escape c = ['\\', 'u', '0', '0'] ++ hexByte c.toNat) ∨
      (c ≠ '"' ∧ c ≠ '\\' ∧ ¬ c.toNat < 0x20 ∧ escape c = [c]) := by
  by_cases hletter : c ∈ ['"', '\\', '\x08', '\x0c', '\n', '\r', '\t']
  · refine .inl ?_
    simp only [List.mem_cons, List.not_mem_nil, or_false] at hletter
    rcases hletter with rfl | rfl | rfl | rfl | rfl | rfl | rfl
    all_goals
      refine ⟨_, ?_, ?_, rfl⟩
      · decide
      · decide
  · refine .inr ?_
    simp only [List.mem_cons, List.not_mem_nil, or_false, not_or] at hletter
    obtain ⟨hmark, hbackslash, hb, hf, hn, hr, ht⟩ := hletter
    by_cases hcontrol : c.toNat < 0x20
    · exact .inl ⟨hcontrol, by simp [escape, hmark, hbackslash, hb, hf, hn, hr, ht, hcontrol]⟩
    · exact .inr ⟨hmark, hbackslash, hcontrol,
        by simp [escape, hmark, hbackslash, hb, hf, hn, hr, ht, hcontrol]⟩

/-- A character as it stands in text is taken as one part of it, and this part stands for the
character. -/
theorem exists_unit_of_escape (c : Char) :
    ∃ unit, (∀ cs, scanUnits (escape c ++ cs) =
        (scanUnits cs).map fun (units, rest) => (unit :: units, rest)) ∧
      ∀ units, characters? (unit :: units) = (characters? units).map (c :: ·) := by
  have hplain : ∀ units, characters? (.plain c :: units) = (characters? units).map (c :: ·) :=
    fun units => by rw [characters?]
  rcases escape_cases c with ⟨e, he, hc, hescape⟩ | ⟨hcontrol, hescape⟩ |
    ⟨hmark, hbackslash, hcontrol, hescape⟩
  · rw [hescape]
    exact ⟨.plain c, scanUnits_escaped he hc, hplain⟩
  · have hunit : ∀ units, characters? (.unit c.toNat :: units) =
        (characters? units).map (c :: ·) := by
      intro units
      rw [characters?_unit (by omega), Char.ofNat_toNat]
    rw [hescape]
    exact ⟨.unit c.toNat, scanUnits_numbered (hexValue?_hexByte hcontrol), hunit⟩
  · rw [hescape]
    exact ⟨.plain c, scanUnits_plain hmark hbackslash hcontrol, hplain⟩

/-- Text between quotation marks is taken as a whole. -/
theorem exists_units_of_escaped (s rest : List Char) :
    ∃ units, scanUnits (s.flatMap escape ++ '"' :: rest) = some (units, rest) ∧
      characters? units = some s := by
  induction s with
  | nil => exact ⟨[], scanUnits_quotationMark rest, rfl⟩
  | cons c s ih =>
      obtain ⟨units, hscan, hunits⟩ := ih
      obtain ⟨unit, hescape, hunit⟩ := exists_unit_of_escape c
      refine ⟨unit :: units, ?_, ?_⟩
      · rw [List.flatMap_cons, List.append_assoc, hescape, hscan]
        rfl
      · rw [hunit, hunits]
        rfl

theorem Spells.quote {cs : List Char} {ls : List Lexeme} (s : String) (h : Spells cs ls) :
    Spells (quote s ++ cs) (.text s :: ls) := by
  obtain ⟨units, hscan, hunits⟩ := exists_units_of_escaped s.toList cs
  have hchars : Json.quote s ++ cs = '"' :: (s.toList.flatMap escape ++ '"' :: cs) := by
    simp [Json.quote]
  have htext : scanText (s.toList.flatMap escape ++ '"' :: cs) = some (.text s, cs) := by
    simp only [scanText, hscan, hunits, String.ofList_toList]
  rw [hchars]
  exact h.cons (by decide) htext (by simp; omega)

/-- Text that names no string is taken as a whole, too. -/
theorem Spells.brokenText {cs : List Char} {ls : List Lexeme} (h : Spells cs ls) :
    Spells (['"', '\\', 'u', 'd', '8', '0', '0', '"'] ++ cs) (.brokenText :: ls) := by
  have hvalue : hexValue? ['d', '8', '0', '0'] = some 0xd800 := by decide
  have hscan : scanUnits (['\\', 'u', 'd', '8', '0', '0', '"'] ++ cs) =
      some ([.unit 0xd800], cs) := by
    have hunit := scanUnits_numbered hvalue ('"' :: cs)
    rwa [scanUnits_quotationMark] at hunit
  have hbroken : characters? [.unit 0xd800] = none := by decide
  have htext : scanText (['\\', 'u', 'd', '8', '0', '0', '"'] ++ cs) = some (.brokenText, cs) := by
    simp only [scanText, hscan, hbroken]
  exact h.cons (by decide) htext (by simp; omega)

/-! ### Numbers -/

/-- What does not go on with a number. -/
def EndsNumber : List Char → Prop
  | [] => True
  | c :: _ => c.isDigit = false ∧ c ≠ '.' ∧ c ≠ 'e' ∧ c ≠ 'E'

theorem endsNumber_cons_of_isBlank {c : Char} (h : isBlank c = true) (cs : List Char) :
    EndsNumber (c :: cs) := by
  simp only [isBlank, Bool.or_eq_true, beq_iff_eq] at h
  rcases h with ((rfl | rfl) | rfl) | rfl
  all_goals exact ⟨by decide, by decide, by decide, by decide⟩

theorem EndsNumber.blanks {bs cs : List Char} (hbs : Blanks bs) (h : EndsNumber cs) :
    EndsNumber (bs ++ cs) := by
  cases bs with
  | nil => exact h
  | cons c bs => exact endsNumber_cons_of_isBlank (List.forall_mem_cons.1 hbs).1 _

theorem scanDigits_digits {n : Nat} {rest : List Char}
    (hrest : ∀ c ∈ rest.head?, c.isDigit = false) :
    scanDigits (Decimal.digits n ++ rest) = (Decimal.digits n, rest) := by
  rw [scanDigits, Decimal.takeWhile_digits_append hrest, Decimal.dropWhile_digits_append hrest]

theorem EndsNumber.not_isDigit {rest : List Char} (h : EndsNumber rest) :
    ∀ c ∈ rest.head?, c.isDigit = false := by
  cases rest with
  | nil => exact nofun
  | cons c rest =>
      rintro _ ⟨⟩
      exact h.1

theorem EndsNumber.scanFraction? {rest : List Char} (h : EndsNumber rest) :
    scanFraction? rest = some ([], rest) := by
  cases rest with
  | nil => rfl
  | cons c rest =>
      unfold Json.scanFraction?
      split
      next heq => exact absurd (List.cons.inj heq).1 h.2.1
      next => rfl

theorem EndsNumber.scanExponent? {rest : List Char} (h : EndsNumber rest) :
    scanExponent? rest = some (none, rest) := by
  cases rest with
  | nil => rfl
  | cons c rest => exact if_neg (not_or.2 ⟨h.2.2.1, h.2.2.2⟩)

theorem exists_digits_eq_cons (n : Nat) :
    ∃ c cs, Decimal.digits n = c :: cs ∧ c.isDigit = true := by
  obtain ⟨c, cs, hcs⟩ := List.exists_cons_of_ne_nil (Decimal.digits_ne_nil n)
  exact ⟨c, cs, hcs, Decimal.isDigit_of_mem_digits (hcs ▸ List.mem_cons_self)⟩

/-- The digits of a number do not start with a needless zero. -/
theorem digits_canonical (n : Nat) :
    ¬ ((Decimal.digits n).head? = some '0' ∧ Decimal.digits n ≠ ['0']) := by
  rintro ⟨hhead, hne⟩
  obtain rfl := Decimal.eq_zero_of_head?_digits hhead
  exact hne rfl

/-- The digits before the point are followed by what the rest of the number says. -/
theorem scanMagnitude_digits {n : Nat} {rest rest' : List Char} {exponent : Option Int}
    {negative : Bool} (hdigit : ∀ c ∈ rest.head?, c.isDigit = false)
    (hfraction : scanFraction? rest = some ([], rest))
    (hexponent : scanExponent? rest = some (exponent, rest')) :
    scanMagnitude negative (Decimal.digits n ++ rest) =
      if negative = false ∧ exponent = none then some (.natural n, rest')
      else some (.other negative n (exponent.getD 0), rest') := by
  unfold scanMagnitude
  rw [scanDigits_digits hdigit]
  -- the scanner looks whether there is a digit at all before it goes on
  obtain ⟨c, cs, hcs, -⟩ := exists_digits_eq_cons n
  have hcanonical := digits_canonical n
  have hvalue := Decimal.value_digits n
  rw [hcs] at hcanonical hvalue ⊢
  simp only [if_neg hcanonical, hfraction, hexponent, hvalue, List.append_nil]
  simp

/-- The digits of an exponent, after its sign. -/
theorem scanExponent?_digits (negative : Bool) (n : Nat) {rest : List Char}
    (h : EndsNumber rest) :
    scanExponent? ('e' :: ((if negative then ['-'] else []) ++ Decimal.digits n ++ rest)) =
      some (some (if negative then -(n : Int) else n), rest) := by
  have hdigits := scanDigits_digits (n := n) h.not_isDigit
  have hvalue := Decimal.value_digits n
  obtain ⟨c, cs, hcs, hc⟩ := exists_digits_eq_cons n
  rw [hcs] at hvalue ⊢
  rw [hcs, List.cons_append] at hdigits
  unfold scanExponent?
  cases negative with
  | true =>
      simp [hdigits, hvalue]
  | false =>
      have hminus : c ≠ '-' := by
        rintro rfl
        exact absurd hc (by decide)
      have hplus : c ≠ '+' := by
        rintro rfl
        exact absurd hc (by decide)
      simp [hdigits, hvalue, hminus, hplus]

theorem scanExponent?_exponent (exponent : Int) {rest : List Char} (h : EndsNumber rest) :
    scanExponent? ('e' :: ((if exponent < 0 then ['-'] else []) ++
        Decimal.digits exponent.natAbs ++ rest)) = some (some exponent, rest) := by
  have hvalue :
      (if exponent < 0 then -(exponent.natAbs : Int) else exponent.natAbs) = exponent := by
    split
    next => omega
    next => omega
  have hdigits := scanExponent?_digits (decide (exponent < 0)) exponent.natAbs h
  simp only [decide_eq_true_eq] at hdigits
  rw [hvalue] at hdigits
  exact hdigits

theorem scanNumber_digits (n : Nat) (rest : List Char) :
    scanNumber (Decimal.digits n ++ rest) = scanMagnitude false (Decimal.digits n ++ rest) := by
  unfold scanNumber
  split
  next heq =>
    obtain ⟨c, cs, hcs, hc⟩ := exists_digits_eq_cons n
    rw [hcs, List.cons_append] at heq
    rw [(List.cons.inj heq).1] at hc
    exact absurd hc (by decide)
  next => rfl

/-- A number with an exponent is no count. -/
theorem scanMagnitude_exponent (negative : Bool) (mantissa : Nat) (exponent : Int)
    {rest : List Char} (h : EndsNumber rest) :
    scanMagnitude negative (Decimal.digits mantissa ++ 'e' ::
        ((if exponent < 0 then ['-'] else []) ++ Decimal.digits exponent.natAbs ++ rest)) =
      some (.other negative mantissa exponent, rest) := by
  have hexponent := scanExponent?_exponent exponent h
  rw [scanMagnitude_digits (by rintro _ ⟨⟩; decide) rfl hexponent, if_neg nofun]
  rfl

/-- A number is taken as a whole where it ends. -/
theorem scanNumber_numberChars (n : Number) {rest : List Char} (h : EndsNumber rest) :
    scanNumber (numberChars n ++ rest) = some (n, rest) := by
  cases n with
  | natural n =>
      have hmagnitude : scanMagnitude false (Decimal.digits n ++ rest) =
          some (.natural n, rest) :=
        scanMagnitude_digits h.not_isDigit h.scanFraction? h.scanExponent?
      rw [numberChars, scanNumber_digits, hmagnitude]
  | other negative mantissa exponent =>
      have hmagnitude := scanMagnitude_exponent negative mantissa exponent h
      simp only [numberChars, List.append_assoc] at hmagnitude ⊢
      cases negative with
      | true => exact hmagnitude
      | false => exact (scanNumber_digits mantissa _).trans hmagnitude

/-- What numbers start with. -/
def StartsNumber (c : Char) : Prop := c = '-' ∨ c.isDigit = true

theorem exists_numberChars_eq_cons (n : Number) :
    ∃ c cs, numberChars n = c :: cs ∧ StartsNumber c := by
  cases n with
  | natural n =>
      obtain ⟨c, cs, hcs, hc⟩ := exists_digits_eq_cons n
      exact ⟨c, cs, hcs, .inr hc⟩
  | other negative mantissa exponent =>
      cases negative with
      | true => exact ⟨'-', _, rfl, .inl rfl⟩
      | false =>
          obtain ⟨c, cs, hcs, hc⟩ := exists_digits_eq_cons mantissa
          refine ⟨c, cs ++ ['e'] ++ (if exponent < 0 then ['-'] else []) ++
            Decimal.digits exponent.natAbs, ?_, .inr hc⟩
          simp [numberChars, hcs]

theorem StartsNumber.ne {c other : Char} (hc : StartsNumber c) (hsign : other ≠ '-')
    (hdigit : other.isDigit = false) : c ≠ other := by
  rintro rfl
  rcases hc with hc | hc
  · exact hsign hc
  · rw [hc] at hdigit
    exact Bool.noConfusion hdigit

theorem StartsNumber.isBlank_eq_false {c : Char} (hc : StartsNumber c) : isBlank c = false := by
  have hne : c ≠ ' ' ∧ c ≠ '\t' ∧ c ≠ '\n' ∧ c ≠ '\r' :=
    ⟨hc.ne (by decide) (by decide), hc.ne (by decide) (by decide), hc.ne (by decide) (by decide),
      hc.ne (by decide) (by decide)⟩
  simp [isBlank, hne]

theorem StartsNumber.scan {c : Char} {cs rest : List Char} {n : Number} (hc : StartsNumber c)
    (h : scanNumber (c :: cs) = some (n, rest)) :
    Lexeme.scan (c :: cs) = some (.number n, rest) := by
  have hbrace : c ≠ '{' ∧ c ≠ '}' :=
    ⟨hc.ne (by decide) (by decide), hc.ne (by decide) (by decide)⟩
  have hbracket : c ≠ '[' ∧ c ≠ ']' :=
    ⟨hc.ne (by decide) (by decide), hc.ne (by decide) (by decide)⟩
  have hsign : c ≠ ':' ∧ c ≠ ',' ∧ c ≠ '"' :=
    ⟨hc.ne (by decide) (by decide), hc.ne (by decide) (by decide), hc.ne (by decide) (by decide)⟩
  have hletter : c ≠ 'n' ∧ c ≠ 't' ∧ c ≠ 'f' :=
    ⟨hc.ne (by decide) (by decide), hc.ne (by decide) (by decide), hc.ne (by decide) (by decide)⟩
  simp only [Lexeme.scan, hbrace, hbracket, hsign, hletter, if_false, h]

theorem Spells.number {cs : List Char} {ls : List Lexeme} (n : Number) (hend : EndsNumber cs)
    (h : Spells cs ls) : Spells (numberChars n ++ cs) (.number n :: ls) := by
  obtain ⟨c, tail, hchars, hc⟩ := exists_numberChars_eq_cons n
  have hscan := scanNumber_numberChars n hend
  rw [hchars, List.cons_append] at hscan ⊢
  exact h.cons hc.isBlank_eq_false (hc.scan hscan) (by simp)

/-! ### Layouts -/

/-- A layout that sets the parts of a document apart with nothing but blanks. -/
structure Layout.IsBlank (layout : Layout) : Prop where
  before : ∀ depth, Blanks (layout.before depth)
  closing : ∀ depth, Blanks (layout.closing depth)
  colon : ∃ bs, layout.colon = ':' :: bs ∧ Blanks bs

theorem Layout.isBlank_compact : Layout.compact.IsBlank where
  before _ := nofun
  closing _ := nofun
  colon := ⟨[], rfl, nofun⟩

theorem blanks_newLine (depth : Nat) : Blanks (newLine depth) := by
  intro c hc
  rcases List.mem_cons.1 hc with rfl | hc
  · decide
  · rw [List.eq_of_mem_replicate hc]
    decide

theorem Layout.isBlank_pretty : Layout.pretty.IsBlank where
  before := blanks_newLine
  closing := blanks_newLine
  colon := ⟨[' '], rfl, by simp [Blanks, isBlank]⟩

/-! ### Documents -/

/-- The characters fall into these lexemes, and do not go on with a number before them. -/
structure Follows (cs : List Char) (ls : List Lexeme) : Prop where
  spells : Spells cs ls
  endsNumber : EndsNumber cs

/-- A document in a layout falls into its lexemes, whatever its depth and whatever follows. -/
def Legible (layout : Layout) (d : Document) : Prop :=
  ∀ depth {rest ls}, Follows rest ls → Spells (chars layout depth d ++ rest) (lexemes d ++ ls)

section

variable {layout : Layout} (hlayout : layout.IsBlank) {rest : List Char} {ls : List Lexeme}

theorem Follows.blanks {bs : List Char} (hbs : Blanks bs) (h : Follows rest ls) :
    Follows (bs ++ rest) ls :=
  ⟨h.spells.blanks hbs, h.endsNumber.blanks hbs⟩

include hlayout

/-- A key and its value. -/
theorem Layout.IsBlank.spells_field (depth : Nat) (key : String) {d : Document}
    (hd : Legible layout d) (h : Follows rest ls) :
    Spells (layout.before depth ++ (quote key ++ (layout.colon ++ (chars layout depth d ++ rest))))
      (.text key :: .colon :: (lexemes d ++ ls)) := by
  obtain ⟨bs, hcolon, hbs⟩ := hlayout.colon
  rw [hcolon]
  have hvalue := ((hd depth h).blanks hbs).colon
  exact (hvalue.quote key).blanks (hlayout.before depth)

theorem Layout.IsBlank.follows_itemChars (depth : Nat) {items : List Document}
    (hitems : ∀ d ∈ items, Legible layout d) (h : Follows rest ls) :
    Follows (itemChars layout depth items ++ rest) (itemLexemes items ++ ls) := by
  induction items with
  | nil => exact h
  | cons d items ih =>
      obtain ⟨hd, hitems⟩ := List.forall_mem_cons.1 hitems
      have hrest := hd depth (ih hitems)
      constructor
      · have hcomma := (hrest.blanks (hlayout.before depth)).comma
        simpa [itemChars, itemLexemes] using hcomma
      · exact ⟨by decide, by decide, by decide, by decide⟩

theorem Layout.IsBlank.follows_fieldChars (depth : Nat) {fields : List (String × Document)}
    (hfields : ∀ f ∈ fields, Legible layout f.2) (h : Follows rest ls) :
    Follows (fieldChars layout depth fields ++ rest) (fieldLexemes fields ++ ls) := by
  induction fields with
  | nil => exact h
  | cons f fields ih =>
      obtain ⟨hf, hfields⟩ := List.forall_mem_cons.1 hfields
      have hcomma := (hlayout.spells_field depth f.1 hf (ih hfields)).comma
      constructor
      · simpa [fieldChars, fieldLexemes] using hcomma
      · exact ⟨by decide, by decide, by decide, by decide⟩

/-- What closes a list or a table. -/
theorem Layout.IsBlank.follows_closing (depth : Nat) {c : Char} {l : Lexeme}
    (hc : EndsNumber [c]) (h : Spells (c :: rest) (l :: ls)) :
    Follows (layout.closing depth ++ (c :: rest)) (l :: ls) :=
  Follows.blanks (hlayout.closing depth) ⟨h, hc⟩

/-- **Every document falls into its lexemes**, at every depth and before all that does not go on
with a number. -/
theorem Layout.IsBlank.legible (d : Document) : Legible layout d := by
  induction d using Document.inductionOn with
  | null => exact fun _ _ _ h => h.spells.null
  | boolean b =>
      cases b with
      | true => exact fun _ _ _ h => h.spells.boolean_true
      | false => exact fun _ _ _ h => h.spells.boolean_false
  | number n => exact fun _ _ _ h => h.spells.number n h.endsNumber
  | text s => exact fun _ _ _ h => h.spells.quote s
  | unusable => exact fun _ _ _ h => h.spells.brokenText
  | list items ih =>
      intro depth rest ls h
      cases items with
      | nil => exact h.spells.rightBracket.leftBracket
      | cons d items =>
          obtain ⟨hd, hitems⟩ := List.forall_mem_cons.1 ih
          -- from the end to the front: each part needs what follows it
          have hclosing := hlayout.follows_closing depth
            ⟨by decide, by decide, by decide, by decide⟩ h.spells.rightBracket
          have hfirst := hd (depth + 1) (hlayout.follows_itemChars (depth + 1) hitems hclosing)
          have hopen := (hfirst.blanks (hlayout.before (depth + 1))).leftBracket
          simpa [chars, lexemes] using hopen
  | table fields ih =>
      intro depth rest ls h
      cases fields with
      | nil => exact h.spells.rightBrace.leftBrace
      | cons f fields =>
          obtain ⟨hf, hfields⟩ := List.forall_mem_cons.1 ih
          have hclosing := hlayout.follows_closing depth
            ⟨by decide, by decide, by decide, by decide⟩ h.spells.rightBrace
          have hrest := hlayout.follows_fieldChars (depth + 1) hfields hclosing
          have hopen := (hlayout.spells_field (depth + 1) f.1 hf hrest).leftBrace
          simpa [chars, lexemes] using hopen

/-- A document falls into its lexemes; blanks at the end say nothing. -/
theorem Layout.IsBlank.all_chars (d : Document) {bs : List Char} (hbs : Blanks bs) :
    Lexeme.all (chars layout 0 d ++ bs) = some (lexemes d) := by
  have hend : Follows bs [] := by
    have hblanks := Follows.blanks hbs ⟨Spells.nil, trivial⟩
    rwa [List.append_nil] at hblanks
  have hspells := hlayout.legible d 0 hend
  rw [List.append_nil] at hspells
  exact hspells.all_eq

end

end Json

end StreamRehearsal
