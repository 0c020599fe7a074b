import StreamRehearsal.Toml.Lexical

/-! # Numbers and times in TOML

Values that start with a digit or a sign.

* `scanMoment?` takes a date, a time, or both, with an offset from universal time if there are
  both.  Dates must exist, and a minute may have a second 60.
* `scanNumber?` takes a whole number in one of four bases, or a number with a point or an exponent.
  Digits may have single underscores between them.  Whole numbers are signed 64-bit ones, and
  other numbers must not round to positive infinity. -/

namespace StreamRehearsal.Toml

/-! ### Times -/

/-- Takes so many digits that stand for a number in a range. -/
def scanField? (width low high : Nat) (cs : List Char) : Option (Nat × List Char) :=
  let digits := cs.take width
  let n := Decimal.value digits
  if digits.length = width ∧ digits.all Char.isDigit ∧ low ≤ n ∧ n ≤ high then
    some (n, cs.drop width)
  else none

/-- Takes a character. -/
def scanChar? (p : Char → Bool) : List Char → Option (List Char)
  | [] => none
  | c :: rest => if p c then some rest else none

/-- Whether a year has a day more. -/
def isLeapYear (year : Nat) : Bool := (year % 4 == 0 && year % 100 != 0) || year % 400 == 0

/-- The number of days in a month. -/
def daysIn (year month : Nat) : Nat :=
  if month = 2 then if isLeapYear year then 29 else 28
  else if month = 4 ∨ month = 6 ∨ month = 9 ∨ month = 11 then 30
  else 31

/-- Takes a date. -/
def scanDate? (cs : List Char) : Option (List Char) := do
  let (year, rest) ← scanField? 4 0 9999 cs
  let rest ← scanChar? (· == '-') rest
  let (month, rest) ← scanField? 2 1 12 rest
  let rest ← scanChar? (· == '-') rest
  let (_, rest) ← scanField? 2 1 (daysIn year month) rest
  return rest

/-- Takes the digits after the point of a second, if there is a point. -/
def scanSecondFraction? : List Char → Option (List Char)
  | '.' :: rest =>
    match rest.takeWhile Char.isDigit with
    | [] => none
    | _ => some (rest.dropWhile Char.isDigit)
  | cs => some cs

/-- Takes a time of day. -/
def scanTime? (cs : List Char) : Option (List Char) := do
  let (_, rest) ← scanField? 2 0 23 cs
  let rest ← scanChar? (· == ':') rest
  let (_, rest) ← scanField? 2 0 59 rest
  let rest ← scanChar? (· == ':') rest
  let (_, rest) ← scanField? 2 0 60 rest
  scanSecondFraction? rest

/-- Takes an offset from universal time, if there is one. -/
def scanOffset? : List Char → Option (List Char)
  | [] => some []
  | c :: rest =>
    if c = 'Z' ∨ c = 'z' then some rest
    else if c = '+' ∨ c = '-' then do
      let (_, rest) ← scanField? 2 0 23 rest
      let rest ← scanChar? (· == ':') rest
      let (_, rest) ← scanField? 2 0 59 rest
      return rest
    else some (c :: rest)

/-- Takes a date with an optional time after it, or a time. -/
def scanMoment? (cs : List Char) : Option (List Char) :=
  match scanDate? cs with
  | none => scanTime? cs
  | some rest =>
    match scanChar? (fun c => c == 'T' || c == 't' || c == ' ') rest with
    | none => some rest
    | some more =>
      match scanTime? more with
      | none => some rest
      | some more => scanOffset? more

/-! ### Numbers -/

/-- Takes more digits, each of which may have one underscore before it. -/
def moreDigits (isDigit : Char → Bool) : List Char → Option (List Char × List Char)
  | [] => some ([], [])
  | c :: rest =>
    if isDigit c then push c (moreDigits isDigit rest)
    else if c = '_' then
      match rest with
      | [] => none
      | d :: rest => if isDigit d then push d (moreDigits isDigit rest) else none
    else some ([], c :: rest)

/-- Takes one or more digits with underscores between them. -/
def scanDigits? (isDigit : Char → Bool) : List Char → Option (List Char × List Char)
  | [] => none
  | c :: rest => if isDigit c then push c (moreDigits isDigit rest) else none

/-- Takes the digits of a whole number: a zero alone, or digits that start with none. -/
def scanWhole? : List Char → Option (List Char × List Char)
  | '0' :: rest => some (['0'], rest)
  | cs => scanDigits? Char.isDigit cs

/-- The largest whole number. -/
def maxInteger : Nat := 0x7fffffffffffffff

/-- A whole number as a document, if it is not too large. -/
def integer? (negative : Bool) (n : Nat) : Option Document :=
  if negative = false ∨ n = 0 then
    if n ≤ maxInteger then some (.natural n) else none
  else if n ≤ maxInteger + 1 then some (.number (.other true n 0))
  else none

/-- A number with a point or an exponent as a document, unless it rounds to infinity. -/
def float? (negative : Bool) (mantissa : Nat) (exponent : Int) : Option Document :=
  if negative ∨ Number.roundsToFinite mantissa exponent then
    some (.number (.other negative mantissa exponent))
  else none

/-- Takes an exponent, if there is one. -/
def scanExponent? : List Char → Option (Option Int × List Char)
  | [] => some (none, [])
  | e :: rest =>
    if e = 'e' ∨ e = 'E' then
      let (negative, rest) := match rest with
        | '-' :: rest => (true, rest)
        | '+' :: rest => (false, rest)
        | rest => (false, rest)
      match scanDigits? Char.isDigit rest with
      | some (digits, rest) =>
        let n : Int := Decimal.value digits
        some (some (if negative then -n else n), rest)
      | none => none
    else some (none, e :: rest)

/-- Takes the digits after the point, if there is a point. -/
def scanFraction? : List Char → Option (Option (List Char) × List Char)
  | '.' :: rest =>
    match scanDigits? Char.isDigit rest with
    | some (digits, rest) => some (some digits, rest)
    | none => none
  | cs => some (none, cs)

/-- The document of a number with these parts. -/
def decimal? (negative : Bool) (whole : List Char) (fraction : Option (List Char))
    (exponent : Option Int) : Option Document :=
  if fraction = none ∧ exponent = none then integer? negative (Decimal.value whole)
  else
    let digits := fraction.getD []
    float? negative (Decimal.value (whole ++ digits)) (exponent.getD 0 - digits.length)

/-- Takes a number in base ten after its sign. -/
def scanDecimal? (negative : Bool) (cs : List Char) : Option (Document × List Char) := do
  let (whole, rest) ← scanWhole? cs
  let (fraction, rest) ← scanFraction? rest
  let (exponent, rest) ← scanExponent? rest
  let d ← decimal? negative whole fraction exponent
  return (d, rest)

/-- Takes a number after its sign. -/
def scanUnsigned (negative : Bool) : List Char → Option (Document × List Char)
  | 'i' :: 'n' :: 'f' :: rest => some (.number (.other negative 0 0), rest)
  | 'n' :: 'a' :: 'n' :: rest => some (.number (.other negative 0 0), rest)
  | cs => scanDecimal? negative cs

/-- Takes the digits of a whole number in a base that is a power of two. -/
def scanBase (base : Nat) (isDigit : Char → Bool) (cs : List Char) :
    Option (Document × List Char) := do
  let (digits, rest) ← scanDigits? isDigit cs
  let values ← digits.mapM Json.hexDigit?
  let d ← integer? false (values.foldl (fun v d => base * v + d) 0)
  return (d, rest)

/-- Takes a number. -/
def scanNumber? : List Char → Option (Document × List Char)
  | '0' :: 'x' :: rest => scanBase 16 (fun c => (Json.hexDigit? c).isSome) rest
  | '0' :: 'o' :: rest => scanBase 8 (fun c => '0' ≤ c && c ≤ '7') rest
  | '0' :: 'b' :: rest => scanBase 2 (fun c => c == '0' || c == '1') rest
  | '+' :: rest => scanUnsigned false rest
  | '-' :: rest => scanUnsigned true rest
  | cs => scanUnsigned false cs

/-- The document of a time.  It counts as a table with one field, which no record knows. -/
def moment (written : List Char) : Document :=
  .table [("moment", .text (String.ofList written))]

/-- Takes a time or a number. -/
def scanScalar? (cs : List Char) : Option (Document × List Char) :=
  match scanMoment? cs with
  | some rest => some (moment (cs.take (cs.length - rest.length)), rest)
  | none => scanNumber? cs

end StreamRehearsal.Toml
