import StreamRehearsal.Json.Lexeme
import StreamRehearsal.Text.Decimal

/-! # Socket addresses

A server listens at an address and a port, written `192.0.2.1:80` or `[2001:db8::1]:80`.  Names of
hosts are no addresses.

* `SocketAddress.read? text` reads an address and a port, and nothing may follow.
* An address of the fourth version has four numbers without leading zeros.  One of the sixth has
  eight groups of up to four hexadecimal digits; `::` stands for one or more groups of zeros, and
  the last two groups may be written as an address of the fourth version.  A scope may follow it
  after a percent sign. -/

namespace StreamRehearsal

/-- The address of a host. -/
inductive HostAddress where
  | v4 (a b c d : Nat)
  | v6 (groups : List Nat) (scope : Nat)
  deriving DecidableEq, Repr

/-- The address of a host and a port. -/
structure SocketAddress where
  host : HostAddress
  port : UInt16
  deriving DecidableEq, Repr

namespace SocketAddress

/-! ### Numbers -/

/-- Takes a character. -/
def scanChar? (c : Char) : List Char → Option (List Char)
  | [] => none
  | d :: rest => if d = c then some rest else none

/-- Takes a decimal number up to a limit; it is written without leading zeros unless they are
allowed. -/
def scanDecimal? (limit : Nat) (leadingZeros : Bool) (cs : List Char) :
    Option (Nat × List Char) :=
  let digits := cs.takeWhile Char.isDigit
  if leadingZeros = false ∧ digits.head? = some '0' ∧ digits ≠ ['0'] then none
  else (Decimal.read? limit digits).map fun n => (n, cs.dropWhile Char.isDigit)

/-- Takes a group of one to four hexadecimal digits. -/
def scanGroup? (cs : List Char) : Option (Nat × List Char) :=
  let isHex := fun c => (Json.hexDigit? c).isSome
  let digits := cs.takeWhile isHex
  if digits = [] ∨ 4 < digits.length then none
  else (Json.hexValue? digits).map fun n => (n, cs.dropWhile isHex)

/-! ### Addresses of hosts -/

/-- Takes an address of the fourth version. -/
def scanV4? (cs : List Char) : Option ((Nat × Nat × Nat × Nat) × List Char) := do
  let (a, rest) ← scanDecimal? 255 false cs
  let rest ← scanChar? '.' rest
  let (b, rest) ← scanDecimal? 255 false rest
  let rest ← scanChar? '.' rest
  let (c, rest) ← scanDecimal? 255 false rest
  let rest ← scanChar? '.' rest
  let (d, rest) ← scanDecimal? 255 false rest
  return ((a, b, c, d), rest)

/-- Groups in a row, and whether the last two were written as an address of the fourth version. -/
structure GroupRun where
  groups : List Nat
  endsInV4 : Bool
  rest : List Char

/-- Takes the colon before a group; the first group has none. -/
def groupStart? (isFirst : Bool) (cs : List Char) : Option (List Char) :=
  if isFirst then some cs else scanChar? ':' cs

/-- Takes at most so many groups. -/
def scanGroups : Nat → Bool → List Char → GroupRun
  | 0, _, cs => ⟨[], false, cs⟩
  | left + 1, isFirst, cs =>
    match groupStart? isFirst cs with
    | none => ⟨[], false, cs⟩
    | some start =>
      match if 1 ≤ left then scanV4? start else none with
      | some ((a, b, c, d), rest) => ⟨[a * 256 + b, c * 256 + d], true, rest⟩
      | none =>
        match scanGroup? start with
        | some (group, rest) =>
          let more := scanGroups left false rest
          ⟨group :: more.groups, more.endsInV4, more.rest⟩
        | none => ⟨[], false, cs⟩

/-- Takes an address of the sixth version. -/
def scanV6? (cs : List Char) : Option (List Nat × List Char) :=
  let head := scanGroups 8 true cs
  if head.groups.length = 8 then some (head.groups, head.rest)
  else if head.endsInV4 then none
  else do
    let rest ← scanChar? ':' head.rest
    let rest ← scanChar? ':' rest
    let tail := scanGroups (7 - head.groups.length) true rest
    let zeros := List.replicate (8 - head.groups.length - tail.groups.length) 0
    return (head.groups ++ zeros ++ tail.groups, tail.rest)

/-- Takes a scope, if there is one. -/
def scanScope? : List Char → Option (Nat × List Char)
  | '%' :: rest => scanDecimal? (UInt32.size - 1) true rest
  | cs => some (0, cs)

/-- Takes the address of a host; one of the sixth version stands in brackets. -/
def scanHost? : List Char → Option (HostAddress × List Char)
  | '[' :: rest => do
    let (groups, rest) ← scanV6? rest
    let (scope, rest) ← scanScope? rest
    let rest ← scanChar? ']' rest
    return (.v6 groups scope, rest)
  | cs => (scanV4? cs).map fun r => (.v4 r.1.1 r.1.2.1 r.1.2.2.1 r.1.2.2.2, r.2)

/-! ### Addresses with ports -/

/-- Reads an address and a port. -/
def read? (text : String) : Option SocketAddress :=
  match scanHost? text.toList with
  | some (host, ':' :: rest) =>
    match scanDecimal? (UInt16.size - 1) true rest with
    | some (port, []) => some ⟨host, UInt16.ofNat port⟩
    | _ => none
  | _ => none

end SocketAddress

end StreamRehearsal
