import StreamRehearsal.Scenario.Timeline
import StreamRehearsal.Text.Quoted

/-! # Treatment of a segment request

A timeline decides how a request for one segment is treated.  A segment is asked for by its index,
by the time that a player has been running, or by the name of its file.

* `Timeline.lookup` is the rule itself: the first action about the index, or normal service.
* `Timeline.resolve` asks by index and `Timeline.resolveElapsed` by time; times between two
  segments belong to the later one.
* `SegmentName.index?` reads a file name's stem: digits only, with any number of leading zeros. -/

namespace StreamRehearsal

/-- How a request for one segment is treated. -/
inductive Treatment where
  /-- Served at once. -/
  | normal
  /-- Served after a delay. -/
  | delayed (delay : UInt64)
  /-- Failed at once. -/
  | failure (code : UInt16)
  /-- Failed after a delay. -/
  | delayedFailure (delay : UInt64) (code : UInt16)
  deriving DecidableEq, Repr

namespace Treatment

/-- The treatment with these parts. -/
def ofParts (delay : Option UInt64) (code : Option UInt16) : Treatment :=
  match delay, code with
  | none, none => normal
  | some delay, none => delayed delay
  | none, some code => failure code
  | some delay, some code => delayedFailure delay code

/-- The treatment that an action asks for. -/
def ofAction (a : SegmentAction) : Treatment := ofParts a.delay a.code

/-- The seconds before, or during, the answer. -/
def delay? : Treatment → Option UInt64
  | normal => none
  | delayed delay => some delay
  | failure _ => none
  | delayedFailure delay _ => some delay

/-- The status code of a failure. -/
def code? : Treatment → Option UInt16
  | normal => none
  | delayed _ => none
  | failure code => some code
  | delayedFailure _ code => some code

@[simp] theorem delay?_ofParts (delay : Option UInt64) (code : Option UInt16) :
    (ofParts delay code).delay? = delay := by
  cases delay <;> cases code <;> rfl

@[simp] theorem code?_ofParts (delay : Option UInt64) (code : Option UInt16) :
    (ofParts delay code).code? = code := by
  cases delay <;> cases code <;> rfl

/-- A treatment is known by its parts. -/
@[simp] theorem ofParts_delay?_code? (t : Treatment) : ofParts t.delay? t.code? = t := by
  cases t <;> rfl

/-- A treatment in words, such as `failure 404 after 3s`. -/
def text : Treatment → String
  | normal => "normal"
  | delayed delay => "delayed " ++ Decimal.text delay.toNat ++ "s"
  | failure code => "failure " ++ Decimal.text code.toNat
  | delayedFailure delay code =>
    "failure " ++ Decimal.text code.toNat ++ " after " ++ Decimal.text delay.toNat ++ "s"

end Treatment

/-- The duration of a segment in whole seconds; it is not zero. -/
structure SegmentLength where
  seconds : UInt64
  positive : 0 < seconds.toNat
  deriving DecidableEq, Repr

namespace SegmentLength

/-- The length of the segments that scenarios are built from. -/
def nominal : SegmentLength := ⟨UInt64.ofNat segmentSeconds, by decide⟩

end SegmentLength

namespace Timeline

/-- The treatment of the segment with this index. -/
def lookup (t : Timeline) (index : UInt64) : Treatment :=
  match t.get? index with
  | some action => Treatment.ofAction action
  | none => .normal

/-- The treatment of the segment that a player asks for after this many seconds. -/
def resolveElapsed (t : Timeline) (elapsed : UInt64) (length : SegmentLength) : Treatment :=
  t.lookup (UInt64.ofNat (ceilDiv elapsed.toNat length.seconds.toNat))

/-- The treatment of the segment with this index, found by the time at which it starts as long as
that time is a count. -/
def resolve (t : Timeline) (index : UInt64) (length : SegmentLength) : Treatment :=
  if index.toNat * length.seconds.toNat ≤ maxCount then
    t.resolveElapsed (UInt64.ofNat (index.toNat * length.seconds.toNat)) length
  else
    t.lookup index

end Timeline

namespace SegmentName

/-- The index that the stem of a segment's file name stands for. -/
def index? (stem : String) : Option UInt64 := Decimal.count? stem.toList

end SegmentName

/-- A request for a segment whose name is no index. -/
structure InvalidSegment where
  /-- The stem of the name, as it was asked for. -/
  stem : String
  deriving DecidableEq, Repr

/-- The words for such a request. -/
def InvalidSegment.message (e : InvalidSegment) : String :=
  "Invalid segment request: " ++ Quoted.text e.stem

/-- The treatment of the segment with this file name's stem. -/
def Timeline.resolveName (t : Timeline) (stem : String) (length : SegmentLength) :
    Except InvalidSegment Treatment :=
  match SegmentName.index? stem with
  | some index => .ok (t.resolve index length)
  | none => .error ⟨stem⟩

end StreamRehearsal
