import StreamRehearsal.Net.SocketAddress
import StreamRehearsal.Proofs.Text.Decimal

/-! # Scanning addresses

Each scanner of an address takes what it can from the front of a text and leaves the rest.  What is
said here is where it stops.

* `SocketAddress.StopsAt c f` says that `f` never goes past `c`, so that it takes the same from the
  text before `c` with and without the rest.  It is kept by putting scanners one after the other
  (`StopsAt.bind`, `StopsAt.skip`), and every part of an address has it for the characters that
  cannot be in it.
* `SocketAddress.scanDecimal?_eq_some_iff` and `SocketAddress.scanV4?_eq_some_iff` say which texts
  numbers and addresses of the fourth version are taken from.
* `SocketAddress.scanHost?_closed` and `SocketAddress.scanHost?_of_notMem` are about brackets, and
  `SocketAddress.scanHost?_append` says that a colon behind a host does not change how it is read. -/

namespace StreamRehearsal

namespace SocketAddress

variable {α β : Type} {c : Char} {f : List Char → Option (α × List Char)}

/-! ### Scanners that stop at a character -/

/-- The scanner leaves the end of the text, and never goes past this character. -/
structure StopsAt (c : Char) (f : List Char → Option (α × List Char)) : Prop where
  suffix : ∀ {cs rest : List Char} {a : α}, f cs = some (a, rest) → rest <:+ cs
  append : ∀ cs t : List Char, f (cs ++ c :: t) = (f cs).map fun r => (r.1, r.2 ++ c :: t)

namespace StopsAt

theorem pure (a : α) : StopsAt c fun cs => some (a, cs) where
  suffix h := by
    obtain ⟨-, rfl⟩ := Prod.mk.inj (Option.some.inj h)
    exact List.suffix_rfl
  append _ _ := rfl

theorem fail : StopsAt c fun _ => (none : Option (α × List Char)) where
  suffix h := nomatch h
  append _ _ := rfl

theorem bind {g : α → List Char → Option (β × List Char)} (hf : StopsAt c f)
    (hg : ∀ a, StopsAt c (g a)) : StopsAt c fun cs => (f cs).bind fun r => g r.1 r.2 where
  suffix h := by
    obtain ⟨⟨a, rest⟩, hfirst, hsecond⟩ := Option.bind_eq_some_iff.1 h
    exact ((hg a).suffix hsecond).trans (hf.suffix hfirst)
  append cs t := by
    rw [hf.append]
    cases f cs with
    | none => rfl
    | some r => exact (hg r.1).append r.2 t

theorem map (hf : StopsAt c f) (k : α → β) :
    StopsAt c fun cs => (f cs).map fun r => (k r.1, r.2) := by
  have hbind := hf.bind fun a => pure (k a)
  simpa only [Option.map_eq_bind, Function.comp_def] using hbind

end StopsAt

/-! ### Whole texts -/

/-- What was scanned, if it was the whole text. -/
def whole? (scanned : Option (α × List Char)) : Option α :=
  scanned.bind fun r => if r.2 = [] then some r.1 else none

theorem whole?_eq_some_iff {scanned : Option (α × List Char)} {a : α} :
    whole? scanned = some a ↔ scanned = some (a, []) := by
  cases scanned with
  | none => exact ⟨nofun, nofun⟩
  | some r =>
      obtain ⟨b, rest⟩ := r
      by_cases hrest : rest = []
      · simp [whole?, hrest]
      · simp [whole?, hrest]

/-- A text is not scanned as a whole up to a character in it. -/
theorem whole?_append_cons (scanned : Option (α × List Char)) (c : Char) (t : List Char) :
    whole? (scanned.map fun r => (r.1, r.2 ++ c :: t)) = none := by
  cases scanned with
  | none => rfl
  | some r => simp [whole?]

/-! ### Single characters -/

theorem scanChar?_cons (d e : Char) (cs : List Char) :
    scanChar? d (e :: cs) = if e = d then some cs else none :=
  rfl

theorem scanChar?_eq_some_iff {d : Char} {cs rest : List Char} :
    scanChar? d cs = some rest ↔ cs = d :: rest := by
  cases cs with
  | nil => exact ⟨nofun, nofun⟩
  | cons e cs =>
      rw [scanChar?_cons]
      by_cases he : e = d
      · simp [he]
      · simp [he]

theorem suffix_of_scanChar? {d : Char} {cs rest : List Char} (h : scanChar? d cs = some rest) :
    rest <:+ cs :=
  scanChar?_eq_some_iff.1 h ▸ List.suffix_cons d rest

theorem scanChar?_append {d : Char} (h : d ≠ c) (cs t : List Char) :
    scanChar? d (cs ++ c :: t) = (scanChar? d cs).map (· ++ c :: t) := by
  cases cs with
  | nil => exact if_neg h.symm
  | cons e cs =>
      rw [List.cons_append, scanChar?_cons, scanChar?_cons]
      split
      · rfl
      · rfl

theorem scanChar?_of_notMem {d : Char} {cs : List Char} (h : d ∉ cs) : scanChar? d cs = none := by
  cases cs with
  | nil => rfl
  | cons e cs =>
      have he : e ≠ d := fun e' => h (e' ▸ List.mem_cons_self)
      rw [scanChar?_cons, if_neg he]

theorem scanChar?_append_self {d : Char} {cs : List Char} (h : d ∉ cs) (t : List Char) :
    scanChar? d (cs ++ d :: t) = if cs = [] then some t else none := by
  cases cs with
  | nil => exact if_pos rfl
  | cons e cs =>
      have he : e ≠ d := fun e' => h (e' ▸ List.mem_cons_self)
      rw [List.cons_append, scanChar?_cons, if_neg he, if_neg (List.cons_ne_nil e cs)]

theorem StopsAt.skip {d : Char} (h : d ≠ c) (hf : StopsAt c f) :
    StopsAt c fun cs => (scanChar? d cs).bind f where
  suffix h := by
    obtain ⟨rest, hfirst, hsecond⟩ := Option.bind_eq_some_iff.1 h
    exact (hf.suffix hsecond).trans (suffix_of_scanChar? hfirst)
  append cs t := by
    rw [scanChar?_append h]
    cases scanChar? d cs with
    | none => rfl
    | some rest => exact hf.append rest t

/-! ### Digits -/

section Run

variable {p : Char → Bool}

theorem takeWhile_append_cons (h : p c = false) (cs t : List Char) :
    (cs ++ c :: t).takeWhile p = cs.takeWhile p := by
  induction cs with
  | nil => simp [h]
  | cons d cs ih => simp [List.takeWhile_cons, ih]

theorem dropWhile_append_cons (h : p c = false) (cs t : List Char) :
    (cs ++ c :: t).dropWhile p = cs.dropWhile p ++ c :: t := by
  induction cs with
  | nil => simp [h]
  | cons d cs ih =>
      by_cases hd : p d = true
      · simp [hd, ih]
      · simp [hd]

end Run

/-- What is read from the longest run of such characters stops at every other one. -/
theorem stopsAt_run {p : Char → Bool} (h : p c = false) (refused : List Char → Prop)
    [DecidablePred refused] (value : List Char → Option α) :
    StopsAt c fun cs =>
      if refused (cs.takeWhile p) then none
      else (value (cs.takeWhile p)).map fun a => (a, cs.dropWhile p) where
  suffix hscan := by
    split at hscan
    · exact nomatch hscan
    · obtain ⟨a, -, ha⟩ := Option.map_eq_some_iff.1 hscan
      obtain ⟨-, rfl⟩ := Prod.mk.inj ha
      exact List.dropWhile_suffix _
  append cs t := by
    simp only [takeWhile_append_cons h, dropWhile_append_cons h]
    split
    · rfl
    · rw [Option.map_map]
      rfl

theorem stopsAt_scanDecimal? (h : c.isDigit = false) (limit : Nat) (leadingZeros : Bool) :
    StopsAt c (scanDecimal? limit leadingZeros) :=
  stopsAt_run h
    (fun digits => leadingZeros = false ∧ digits.head? = some '0' ∧ digits ≠ ['0'])
    (Decimal.read? limit)

theorem stopsAt_scanGroup? (h : (Json.hexDigit? c).isSome = false) : StopsAt c scanGroup? :=
  stopsAt_run (p := fun c => (Json.hexDigit? c).isSome) h
    (fun digits => digits = [] ∨ 4 < digits.length) Json.hexValue?

theorem scanDecimal?_digits {limit n : Nat} (h : n ≤ limit) (leadingZeros : Bool)
    {rest : List Char} (hrest : ∀ c ∈ rest.head?, c.isDigit = false) :
    scanDecimal? limit leadingZeros (Decimal.digits n ++ rest) = some (n, rest) := by
  have hzero : ¬ ((Decimal.digits n).head? = some '0' ∧ Decimal.digits n ≠ ['0']) := by
    rintro ⟨hhead, hne⟩
    rw [Decimal.eq_zero_of_head?_digits hhead] at hne
    exact hne rfl
  unfold scanDecimal?
  rw [Decimal.takeWhile_digits_append hrest, Decimal.dropWhile_digits_append hrest]
  dsimp only
  rw [if_neg fun hrefused => hzero hrefused.2, Decimal.read?_digits h]
  rfl

theorem scanDecimal?_eq_some_iff {limit n : Nat} {cs rest : List Char} :
    scanDecimal? limit false cs = some (n, rest) ↔
      cs = Decimal.digits n ++ rest ∧ n ≤ limit ∧ ∀ c ∈ rest.head?, c.isDigit = false := by
  constructor
  · intro h
    unfold scanDecimal? at h
    dsimp only at h
    split at h
    next => exact nomatch h
    next hzero =>
      obtain ⟨n, hread, e⟩ := Option.map_eq_some_iff.1 h
      obtain ⟨rfl, rfl⟩ := Prod.mk.inj e
      obtain ⟨hne, hdigits, hvalue, hle⟩ := Decimal.read?_eq_some_iff.1 hread
      have hback : Decimal.digits n = cs.takeWhile Char.isDigit := by
        rw [← hvalue]
        refine Decimal.digits_value hne hdigits fun hhead => ?_
        by_contra hlong
        exact hzero ⟨rfl, hhead, hlong⟩
      refine ⟨?_, hle, fun c hc => ?_⟩
      · rw [hback, List.takeWhile_append_dropWhile]
      · have hstop := List.head?_dropWhile_not Char.isDigit cs
        rw [hc] at hstop
        simpa using hstop
  · rintro ⟨rfl, hle, hrest⟩
    exact scanDecimal?_digits hle false hrest

/-! ### Addresses of the fourth version -/

theorem stopsAt_scanV4? (hdigit : c.isDigit = false) (hdot : '.' ≠ c) : StopsAt c scanV4? := by
  have hnumber := stopsAt_scanDecimal? hdigit 255 false
  exact hnumber.bind fun a => .skip hdot <| hnumber.bind fun b => .skip hdot <|
    hnumber.bind fun c => .skip hdot <| hnumber.bind fun d => .pure (a, b, c, d)

theorem octet_of_scan {n : Nat} {cs rest after : List Char}
    (h : scanDecimal? 255 false cs = some (n, rest)) (hdot : scanChar? '.' rest = some after) :
    cs = Decimal.digits n ++ '.' :: after ∧ n ≤ 255 := by
  obtain ⟨rfl, hle, -⟩ := scanDecimal?_eq_some_iff.1 h
  exact ⟨congrArg _ (scanChar?_eq_some_iff.1 hdot), hle⟩

theorem scanV4?_eq_some_iff {a b c d : Nat} {cs rest : List Char} :
    scanV4? cs = some ((a, b, c, d), rest) ↔
      cs = Decimal.digits a ++ '.' :: (Decimal.digits b ++ '.' :: (Decimal.digits c ++
        '.' :: (Decimal.digits d ++ rest))) ∧
      (a ≤ 255 ∧ b ≤ 255 ∧ c ≤ 255 ∧ d ≤ 255) ∧ ∀ e ∈ rest.head?, e.isDigit = false := by
  unfold scanV4?
  constructor
  · intro h
    obtain ⟨⟨a', afterA⟩, ha, h⟩ := Option.bind_eq_some_iff.1 h
    obtain ⟨beforeB, hdotA, h⟩ := Option.bind_eq_some_iff.1 h
    obtain ⟨⟨b', afterB⟩, hb, h⟩ := Option.bind_eq_some_iff.1 h
    obtain ⟨beforeC, hdotB, h⟩ := Option.bind_eq_some_iff.1 h
    obtain ⟨⟨c', afterC⟩, hc, h⟩ := Option.bind_eq_some_iff.1 h
    obtain ⟨beforeD, hdotC, h⟩ := Option.bind_eq_some_iff.1 h
    obtain ⟨⟨d', afterD⟩, hd, h⟩ := Option.bind_eq_some_iff.1 h
    obtain ⟨⟨rfl, rfl, rfl, rfl⟩, rfl⟩ : (a' = a ∧ b' = b ∧ c' = c ∧ d' = d) ∧ afterD = rest := by
      simpa using h
    obtain ⟨rfl, hleA⟩ := octet_of_scan ha hdotA
    obtain ⟨rfl, hleB⟩ := octet_of_scan hb hdotB
    obtain ⟨rfl, hleC⟩ := octet_of_scan hc hdotC
    obtain ⟨rfl, hleD, hrest⟩ := scanDecimal?_eq_some_iff.1 hd
    exact ⟨rfl, ⟨hleA, hleB, hleC, hleD⟩, hrest⟩
  · rintro ⟨rfl, ⟨ha, hb, hc, hd⟩, hrest⟩
    have hdot : ∀ cs : List Char, ∀ e ∈ ('.' :: cs).head?, e.isDigit = false := by
      rintro cs e ⟨⟩
      rfl
    simp [scanDecimal?_digits ha false (hdot _), scanDecimal?_digits hb false (hdot _),
      scanDecimal?_digits hc false (hdot _), scanDecimal?_digits hd false hrest, scanChar?_cons]

/-! ### Addresses of the sixth version -/

theorem suffix_of_groupStart? {isFirst : Bool} {cs rest : List Char}
    (h : groupStart? isFirst cs = some rest) : rest <:+ cs := by
  cases isFirst with
  | true =>
      obtain rfl := Option.some.inj h
      exact List.suffix_rfl
  | false => exact suffix_of_scanChar? h

theorem groupStart?_append (h : ':' ≠ c) (isFirst : Bool) (cs t : List Char) :
    groupStart? isFirst (cs ++ c :: t) = (groupStart? isFirst cs).map (· ++ c :: t) := by
  cases isFirst with
  | true => rfl
  | false => exact scanChar?_append h cs t

/-- The character is in no address of the sixth version, and in no scope. -/
structure EndsAddress (c : Char) : Prop where
  digit : c.isDigit = false
  hexDigit : (Json.hexDigit? c).isSome = false
  dot : '.' ≠ c
  colon : ':' ≠ c
  percent : '%' ≠ c

theorem endsAddress_bracket : EndsAddress ']' := by
  constructor <;> decide

/-- The last two groups may be an address of the fourth version, if two are left. -/
theorem stopsAt_lastGroups (h : EndsAddress c) (left : Nat) :
    StopsAt c fun cs => if 1 ≤ left then scanV4? cs else none := by
  by_cases hleft : 1 ≤ left
  · simpa only [hleft, if_true] using stopsAt_scanV4? h.digit h.dot
  · simpa only [hleft, if_false] using StopsAt.fail

/-- The same groups before more text. -/
def GroupRun.before (t : List Char) (run : GroupRun) : GroupRun :=
  { run with rest := run.rest ++ t }

theorem suffix_rest_scanGroups (h : EndsAddress c) (left : Nat) (isFirst : Bool)
    (cs : List Char) : (scanGroups left isFirst cs).rest <:+ cs := by
  induction left generalizing isFirst cs with
  | zero => exact List.suffix_rfl
  | succ left ih =>
      have hlast := stopsAt_lastGroups h left
      have hgroup := stopsAt_scanGroup? h.hexDigit
      unfold scanGroups
      split
      next => exact List.suffix_rfl
      next start hstart =>
        have hsuffix := suffix_of_groupStart? hstart
        split
        next hv4 => exact (hlast.suffix hv4).trans hsuffix
        next =>
          split
          next hnext => exact (ih false _).trans ((hgroup.suffix hnext).trans hsuffix)
          next => exact List.suffix_rfl

theorem scanGroups_append (h : EndsAddress c) (left : Nat) (isFirst : Bool) (cs t : List Char) :
    scanGroups left isFirst (cs ++ c :: t) = (scanGroups left isFirst cs).before (c :: t) := by
  induction left generalizing isFirst cs with
  | zero => rfl
  | succ left ih =>
      unfold scanGroups
      rw [groupStart?_append h.colon]
      cases groupStart? isFirst cs with
      | none => rfl
      | some start =>
          have hlast := (stopsAt_lastGroups h left).append start t
          dsimp only [Option.map_some] at hlast ⊢
          rw [hlast, (stopsAt_scanGroup? h.hexDigit).append]
          cases (if 1 ≤ left then scanV4? start else none) with
          | some r => rfl
          | none =>
              cases scanGroup? start with
              | none => rfl
              | some r =>
                  dsimp only [Option.map_some, Option.map_none]
                  rw [ih]
                  rfl

/-- What is done with a run of groups may go on behind it. -/
theorem StopsAt.groups {k : List Nat → Bool → List Char → Option (α × List Char)}
    (h : EndsAddress c) (left : Nat) (hk : ∀ groups endsInV4, StopsAt c (k groups endsInV4)) :
    StopsAt c fun cs =>
      k (scanGroups left true cs).groups (scanGroups left true cs).endsInV4
        (scanGroups left true cs).rest where
  suffix hscan := ((hk _ _).suffix hscan).trans (suffix_rest_scanGroups h left true _)
  append cs t := by
    rw [scanGroups_append h]
    exact (hk _ _).append _ t

theorem stopsAt_scanV6? (h : EndsAddress c) : StopsAt c scanV6? := by
  refine .groups (k := fun groups endsInV4 rest =>
    if groups.length = 8 then some (groups, rest)
    else if endsInV4 then none
    else (scanChar? ':' rest).bind fun rest => (scanChar? ':' rest).bind fun rest =>
      let tail := scanGroups (7 - groups.length) true rest
      some (groups ++ List.replicate (8 - groups.length - tail.groups.length) 0 ++ tail.groups,
        tail.rest)) h 8 fun groups endsInV4 => ?_
  split
  · exact .pure groups
  · split
    · exact .fail
    · exact .skip h.colon <| .skip h.colon <| .groups (k := fun more _ rest =>
        some (groups ++ List.replicate (8 - groups.length - more.length) 0 ++ more, rest)) h _
        fun more _ => .pure _

theorem scanScope?_cons_of_ne {d : Char} (h : d ≠ '%') (cs : List Char) :
    scanScope? (d :: cs) = some (0, d :: cs) := by
  unfold scanScope?
  split
  next e => exact absurd (List.cons.inj e).1 h
  next => rfl

theorem stopsAt_scanScope? (h : EndsAddress c) : StopsAt c scanScope? where
  suffix hscan := by
    have hnumber := stopsAt_scanDecimal? h.digit (UInt32.size - 1) true
    unfold scanScope? at hscan
    split at hscan
    next rest => exact (hnumber.suffix hscan).trans (List.suffix_cons _ rest)
    next =>
      obtain ⟨-, rfl⟩ := Prod.mk.inj (Option.some.inj hscan)
      exact List.suffix_rfl
  append cs t := by
    cases cs with
    | nil => exact scanScope?_cons_of_ne h.percent.symm t
    | cons d cs =>
        by_cases hd : d = '%'
        · subst hd
          exact (stopsAt_scanDecimal? h.digit (UInt32.size - 1) true).append cs t
        · rw [List.cons_append, scanScope?_cons_of_ne hd, scanScope?_cons_of_ne hd]
          rfl

/-! ### Brackets -/

/-- Takes what stands in brackets. -/
def scanInner? (cs : List Char) : Option (HostAddress × List Char) :=
  (scanV6? cs).bind fun r => (scanScope? r.2).map fun q => (.v6 r.1 q.1, q.2)

theorem stopsAt_scanInner? (h : EndsAddress c) : StopsAt c scanInner? :=
  (stopsAt_scanV6? h).bind fun groups => (stopsAt_scanScope? h).map (HostAddress.v6 groups)

theorem scanHost?_bracket (cs : List Char) :
    scanHost? ('[' :: cs) =
      (scanInner? cs).bind fun r => (scanChar? ']' r.2).map fun rest => (r.1, rest) := by
  show (scanV6? cs).bind _ = _
  unfold scanInner?
  cases scanV6? cs with
  | none => rfl
  | some r =>
      show (scanScope? r.2).bind _ = _
      dsimp only [Option.bind_some]
      cases scanScope? r.2 with
      | none => rfl
      | some q =>
          show (scanChar? ']' q.2).bind _ = _
          dsimp only [Option.map_some, Option.bind_some]
          cases scanChar? ']' q.2 with
          | none => rfl
          | some rest => rfl

/-- Nothing behind a bracket that is not closed is an address. -/
theorem scanHost?_of_notMem {cs : List Char} (h : ']' ∉ cs) : scanHost? ('[' :: cs) = none := by
  rw [scanHost?_bracket]
  cases hinner : scanInner? cs with
  | none => rfl
  | some r =>
      have hsuffix := (stopsAt_scanInner? endsAddress_bracket).suffix hinner
      have hnone := scanChar?_of_notMem fun hmem => h (hsuffix.subset hmem)
      rw [Option.bind_some, hnone]
      rfl

/-- What stands in brackets is read by itself, whatever comes behind them. -/
theorem scanHost?_closed {cs : List Char} (h : ']' ∉ cs) (t : List Char) :
    scanHost? ('[' :: (cs ++ ']' :: t)) = (whole? (scanInner? cs)).map fun host => (host, t) := by
  rw [scanHost?_bracket, (stopsAt_scanInner? endsAddress_bracket).append]
  cases hinner : scanInner? cs with
  | none => rfl
  | some r =>
      have hsuffix := (stopsAt_scanInner? endsAddress_bracket).suffix hinner
      have hclose := scanChar?_append_self (fun hmem => h (hsuffix.subset hmem)) t
      dsimp only [whole?, Option.map_some, Option.bind_some]
      rw [hclose]
      split
      · rfl
      · rfl

/-! ### Hosts -/

theorem scanHost?_of_head? {cs : List Char} (h : cs.head? ≠ some '[') :
    scanHost? cs =
      (scanV4? cs).map fun r => (.v4 r.1.1 r.1.2.1 r.1.2.2.1 r.1.2.2.2, r.2) := by
  unfold scanHost?
  split
  next => exact absurd rfl h
  next => rfl

/-- A colon and a text without brackets behind a host do not change how it is read. -/
theorem scanHost?_append (cs : List Char) {t : List Char} (ht : ']' ∉ t) :
    scanHost? (cs ++ ':' :: t) = (scanHost? cs).map fun r => (r.1, r.2 ++ ':' :: t) := by
  by_cases hhead : cs.head? = some '['
  · obtain ⟨inner, rfl⟩ := List.head?_eq_some_iff.1 hhead
    -- groups have colons in them, so only the closing bracket keeps the scanner from going on
    by_cases hclosed : ']' ∈ inner
    · obtain ⟨before, after, rfl, hbefore⟩ := List.eq_append_cons_of_mem hclosed
      rw [List.cons_append, List.append_assoc, List.cons_append, scanHost?_closed hbefore,
        scanHost?_closed hbefore, Option.map_map]
      rfl
    · have hopen : ']' ∉ inner ++ ':' :: t := by simp [hclosed, ht]
      rw [List.cons_append, scanHost?_of_notMem hopen, scanHost?_of_notMem hclosed]
      rfl
  · have hhead' : (cs ++ ':' :: t).head? ≠ some '[' := by
      cases cs with
      | nil => exact fun e => absurd (Option.some.inj e) (by decide)
      | cons c cs => exact hhead
    rw [scanHost?_of_head? hhead, scanHost?_of_head? hhead',
      (stopsAt_scanV4? (by decide) (by decide)).append, Option.map_map, Option.map_map]
    rfl

end SocketAddress

end StreamRehearsal
