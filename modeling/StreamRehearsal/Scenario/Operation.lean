import StreamRehearsal.Count
import StreamRehearsal.Text.Decimal

/-! # Operations

A scenario is a list of operations, each of which says what happens to a player next.

* `Operation` has one constructor for each `Kind`, carrying its magnitude.
* `Operation.ofMagnitude` builds one from what a token gives, with the kind's default in place of
  a magnitude that is missing or unusable.
* `Operation.slots` is the number of media segments that an operation takes up.
* `Operation.token` is its written form: the letter of its kind and its magnitude. -/

namespace StreamRehearsal

/-- The nominal duration of every media segment, in seconds. -/
def segmentSeconds : Nat := 5

/-- One instruction of a scenario. -/
inductive Operation where
  /-- Hold back the first segment. -/
  | startup (delay : UInt64)
  /-- Serve this many seconds of media without trouble. -/
  | playback (duration : UInt64)
  /-- Hold back the segment that comes next. -/
  | rebuffer (delay : UInt64)
  /-- Answer the segment that comes next with a status code. -/
  | failure (code : UInt16)
  deriving DecidableEq, Repr

namespace Operation

/-- The four sorts of operation. -/
inductive Kind where
  | startup
  | playback
  | rebuffer
  | failure
  deriving DecidableEq, Repr

/-- The letter that a token of this kind starts with. -/
def Kind.letter : Kind → Char
  | .startup => 's'
  | .playback => 'p'
  | .rebuffer => 'r'
  | .failure => 'e'

/-- The kind that a letter selects; letters are case sensitive. -/
def Kind.ofLetter? (c : Char) : Option Kind :=
  if c = 's' then some .startup
  else if c = 'p' then some .playback
  else if c = 'r' then some .rebuffer
  else if c = 'e' then some .failure
  else none

@[simp] theorem Kind.ofLetter?_letter (k : Kind) : Kind.ofLetter? k.letter = some k := by
  cases k <;> decide

/-- The magnitude that a token of this kind stands for when it gives none of its own. -/
def Kind.default : Kind → Nat
  | .startup => 5
  | .playback => 30
  | .rebuffer => 30
  | .failure => 500

/-- The status code that a magnitude stands for: codes have three digits. -/
def statusCode? (magnitude : UInt64) : Option UInt16 :=
  if 100 ≤ magnitude.toNat ∧ magnitude.toNat ≤ 999 then some magnitude.toUInt16 else none

/-- The operation of a kind and a magnitude; the kind's default stands in for a magnitude that is
missing or, for a failure, is no status code. -/
def ofMagnitude (kind : Kind) (magnitude : Option UInt64) : Operation :=
  match kind with
  | .startup => startup (magnitude.getD (UInt64.ofNat kind.default))
  | .playback => playback (magnitude.getD (UInt64.ofNat kind.default))
  | .rebuffer => rebuffer (magnitude.getD (UInt64.ofNat kind.default))
  | .failure => failure ((magnitude.bind statusCode?).getD (UInt16.ofNat kind.default))

/-- The kind of an operation. -/
def kind : Operation → Kind
  | startup _ => .startup
  | playback _ => .playback
  | rebuffer _ => .rebuffer
  | failure _ => .failure

/-- The magnitude of an operation: seconds, or a status code. -/
def magnitude : Operation → Nat
  | startup delay => delay.toNat
  | playback duration => duration.toNat
  | rebuffer delay => delay.toNat
  | failure code => code.toNat

/-- The number of media segments that an operation takes up: a startup and a failure use up one,
playback as many as cover its duration, and a rebuffer none, as it stalls on a segment that is yet
to be served. -/
def slots : Operation → Nat
  | startup _ => 1
  | playback duration => ceilDiv duration.toNat segmentSeconds
  | rebuffer _ => 0
  | failure _ => 1

@[simp] theorem slots_startup (d : UInt64) : (startup d).slots = 1 := rfl
@[simp] theorem slots_playback (d : UInt64) :
    (playback d).slots = ceilDiv d.toNat segmentSeconds := rfl
@[simp] theorem slots_rebuffer (d : UInt64) : (rebuffer d).slots = 0 := rfl
@[simp] theorem slots_failure (c : UInt16) : (failure c).slots = 1 := rfl

/-- The written form of an operation, as characters. -/
def tokenChars (op : Operation) : List Char := op.kind.letter :: Decimal.digits op.magnitude

/-- The written form of an operation, such as `r10`. -/
def token (op : Operation) : String := String.ofList op.tokenChars

end Operation

end StreamRehearsal
