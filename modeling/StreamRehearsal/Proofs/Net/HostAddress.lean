import StreamRehearsal.Proofs.Net.Scanning

/-! # The host before the port

An address and a port are read in one go, from a text that was put together from two settings.  The
outcome is the same as reading the host by itself: nothing of the port, and no colon of the host, can
change what is read.

* `HostAddress.read?` reads a host by itself.  `HostAddress.read?_eq_some_v4_iff` and
  `HostAddress.read?_eq_some_v6_iff` are the two forms that a host can have, and
  `HostAddress.read?_eq_none_of_mem` rules out every name.
* `SocketAddress.read?_append_port` is the outcome. -/

namespace StreamRehearsal

open SocketAddress

/-- Reads the address of a host by itself. -/
def HostAddress.read? (text : String) : Option HostAddress := whole? (scanHost? text.toList)

/-! ### The two forms of a host -/

namespace HostAddress

theorem read?_of_head? {host : String} (h : host.toList.head? ≠ some '[') :
    read? host =
      (whole? (scanV4? host.toList)).map fun r => .v4 r.1 r.2.1 r.2.2.1 r.2.2.2 := by
  unfold read? whole?
  rw [scanHost?_of_head? h]
  cases scanV4? host.toList with
  | none => rfl
  | some r =>
      dsimp only [Option.map_some, Option.bind_some]
      split
      · rfl
      · rfl

/-- **A name is no address**: outside of brackets there are only digits and dots. -/
theorem read?_eq_none_of_mem {host : String} (h : host.toList.head? ≠ some '[') {c : Char}
    (hc : c ∈ host.toList) (hdigit : c.isDigit = false) (hdot : '.' ≠ c) : read? host = none := by
  obtain ⟨before, after, hchars, -⟩ := List.eq_append_cons_of_mem hc
  rw [read?_of_head? h, hchars, (stopsAt_scanV4? hdigit hdot).append, whole?_append_cons]
  rfl

/-- The text of an address of the fourth version. -/
def dotted (a b c d : Nat) : String :=
  Decimal.text a ++ "." ++ Decimal.text b ++ "." ++ Decimal.text c ++ "." ++ Decimal.text d

theorem toList_dotted (a b c d : Nat) :
    (dotted a b c d).toList = Decimal.digits a ++ '.' :: (Decimal.digits b ++
      '.' :: (Decimal.digits c ++ '.' :: Decimal.digits d)) := by
  simp [dotted, Decimal.text]

theorem head?_dotted_ne (a b c d : Nat) : (dotted a b c d).toList.head? ≠ some '[' := by
  intro e
  obtain ⟨x, xs, hx⟩ := List.exists_cons_of_ne_nil (Decimal.digits_ne_nil a)
  have hdigit : x.isDigit = true := Decimal.isDigit_of_mem_digits (hx ▸ List.mem_cons_self)
  rw [toList_dotted, hx] at e
  obtain rfl : x = '[' := Option.some.inj e
  exact absurd hdigit (by decide)

/-- In brackets there is no address of the fourth version. -/
theorem read?_bracket_ne_v4 {host : String} {a b c d : Nat} (h : host.toList.head? = some '[') :
    read? host ≠ some (.v4 a b c d) := by
  intro e
  obtain ⟨inner, hchars⟩ := List.head?_eq_some_iff.1 h
  rw [read?, whole?_eq_some_iff, hchars, scanHost?_bracket] at e
  obtain ⟨r, hinner, e⟩ := Option.bind_eq_some_iff.1 e
  obtain ⟨rest, -, e⟩ := Option.map_eq_some_iff.1 e
  obtain ⟨groups, -, hinner⟩ := Option.bind_eq_some_iff.1 hinner
  obtain ⟨scope, -, rfl⟩ := Option.map_eq_some_iff.1 hinner
  simp at e

/-- **Outside of brackets an address is four numbers up to 255** with dots between them, each
written without needless zeros. -/
theorem read?_eq_some_v4_iff {host : String} {a b c d : Nat} :
    read? host = some (.v4 a b c d) ↔
      host = dotted a b c d ∧ a ≤ 255 ∧ b ≤ 255 ∧ c ≤ 255 ∧ d ≤ 255 := by
  by_cases h : host.toList.head? = some '['
  · refine ⟨fun e => absurd e (read?_bracket_ne_v4 h), ?_⟩
    rintro ⟨rfl, -⟩
    exact absurd h (head?_dotted_ne a b c d)
  · have hchars : host = dotted a b c d ↔ host.toList = Decimal.digits a ++ '.' ::
        (Decimal.digits b ++ '.' :: (Decimal.digits c ++ '.' :: (Decimal.digits d ++ []))) := by
      rw [← String.toList_inj, toList_dotted, List.append_nil]
    have hscan : read? host = some (.v4 a b c d) ↔
        scanV4? host.toList = some ((a, b, c, d), []) := by
      rw [read?_of_head? h, Option.map_eq_some_iff, ← whole?_eq_some_iff]
      constructor
      · rintro ⟨⟨a', b', c', d'⟩, hwhole, ⟨⟩⟩
        exact hwhole
      · intro hwhole
        exact ⟨_, hwhole, rfl⟩
    rw [hscan, hchars, scanV4?_eq_some_iff]
    simp

/-- **In brackets an address is groups and a scope**, and there is nothing around the brackets. -/
theorem read?_eq_some_v6_iff {host : String} {groups : List Nat} {scope : Nat} :
    read? host = some (.v6 groups scope) ↔
      ∃ inner : List Char, ']' ∉ inner ∧ host.toList = '[' :: (inner ++ [']']) ∧
        scanInner? inner = some (.v6 groups scope, []) := by
  rw [read?, whole?_eq_some_iff]
  constructor
  · intro e
    by_cases hhead : host.toList.head? = some '['
    · obtain ⟨inner, hchars⟩ := List.head?_eq_some_iff.1 hhead
      by_cases hclosed : ']' ∈ inner
      · obtain ⟨before, after, rfl, hbefore⟩ := List.eq_append_cons_of_mem hclosed
        rw [hchars, scanHost?_closed hbefore, Option.map_eq_some_iff] at e
        obtain ⟨address, hwhole, e⟩ := e
        obtain ⟨rfl, rfl⟩ := Prod.mk.inj e
        exact ⟨before, hbefore, hchars, whole?_eq_some_iff.1 hwhole⟩
      · rw [hchars, scanHost?_of_notMem hclosed] at e
        exact nomatch e
    · rw [scanHost?_of_head? hhead, Option.map_eq_some_iff] at e
      obtain ⟨r, -, e⟩ := e
      exact nomatch (Prod.mk.inj e).1
  · rintro ⟨inner, hinner, hchars, hscan⟩
    rw [hchars, scanHost?_closed hinner, whole?_eq_some_iff.2 hscan]
    rfl

end HostAddress

/-! ### The port -/

namespace SocketAddress

theorem read?_of_colon {text : String} {address : HostAddress} {cs : List Char}
    (h : scanHost? text.toList = some (address, ':' :: cs)) :
    read? text = (whole? (scanDecimal? (UInt16.size - 1) true cs)).map fun port =>
      ⟨address, UInt16.ofNat port⟩ := by
  simp only [read?, h]
  cases scanDecimal? (UInt16.size - 1) true cs with
  | none => rfl
  | some r =>
      obtain ⟨port, rest⟩ := r
      cases rest with
      | nil => rfl
      | cons c rest => rfl

theorem read?_of_ne {text : String} {address : HostAddress} {c : Char} {cs : List Char}
    (h : scanHost? text.toList = some (address, c :: cs)) (hc : c ≠ ':') : read? text = none := by
  unfold read?
  rw [h]
  split
  next e => exact absurd (List.cons.inj (Prod.mk.inj (Option.some.inj e)).2).1 hc
  next => rfl

/-- A port is only read right behind the host; with anything in between there is no address. -/
theorem read?_of_rest {text : String} {address : HostAddress} {rest : List Char} {port : UInt16}
    (h : scanHost? text.toList = some (address, rest ++ ':' :: Decimal.digits port.toNat)) :
    read? text = if rest = [] then some ⟨address, port⟩ else none := by
  cases rest with
  | nil =>
      have hlt : port.toNat ≤ UInt16.size - 1 := Nat.le_pred_of_lt port.toNat_lt
      have hport : scanDecimal? (UInt16.size - 1) true (Decimal.digits port.toNat ++ []) =
          some (port.toNat, []) :=
        scanDecimal?_digits hlt true nofun
      rw [List.append_nil] at hport
      rw [read?_of_colon h, hport]
      simp [whole?]
  | cons c rest =>
      rw [List.cons_append] at h
      rw [if_neg (List.cons_ne_nil c rest)]
      by_cases hc : c = ':'
      · subst hc
        -- the colon before the port is one too many
        have hstop := (stopsAt_scanDecimal? (c := ':') rfl (UInt16.size - 1) true).append
          rest (Decimal.digits port.toNat)
        rw [read?_of_colon h, hstop, whole?_append_cons]
        rfl
      · exact read?_of_ne h hc

/-- **A port does not change which address is read.**  From a host and a port the two are read
back if the host is an address by itself, and otherwise nothing is read. -/
theorem read?_append_port (host : String) (port : UInt16) :
    read? (host ++ ":" ++ Decimal.text port.toNat) =
      (HostAddress.read? host).map fun address => ⟨address, port⟩ := by
  have hchars : (host ++ ":" ++ Decimal.text port.toNat).toList =
      host.toList ++ ':' :: Decimal.digits port.toNat := by
    simp [Decimal.text]
  have hbracket : ']' ∉ Decimal.digits port.toNat := fun hmem =>
    absurd (Decimal.isDigit_of_mem_digits hmem) (by decide)
  have hscan := scanHost?_append host.toList hbracket
  rw [← hchars] at hscan
  unfold HostAddress.read?
  cases hhost : scanHost? host.toList with
  | none =>
      unfold read?
      rw [hscan, hhost]
      rfl
  | some r =>
      obtain ⟨address, rest⟩ := r
      rw [hhost] at hscan
      rw [read?_of_rest hscan]
      by_cases hrest : rest = []
      · simp [whole?, hrest]
      · simp [whole?, hrest]

end SocketAddress

end StreamRehearsal
