import StreamRehearsal.Scenario.Token
import StreamRehearsal.Scenario.Treatment

/-! # Scenarios

A compiled scenario holds the operations of a scenario string, their timeline and the nominal
length of the media that they describe.

* `Scenario.compile` reads and compiles a scenario string.
* `Scenario.totalLength` adds up the seconds of all segments that the operations take up, clipped
  at every step; `Scenario.segmentCount` is the number of whole segments in it.
* `Scenario.isConsistent` holds if no action is about a segment past the one after the last. -/

namespace StreamRehearsal

/-- A compiled scenario. -/
structure Scenario where
  operations : List Operation
  timeline : Timeline
  /-- The nominal length of the media, in seconds. -/
  length : UInt64
  deriving DecidableEq, Repr

namespace Scenario

/-- The nominal seconds of media that an operation takes up. -/
def footprint (op : Operation) : UInt64 := clip (op.slots * segmentSeconds)

/-- The nominal seconds of media that a list of operations takes up. -/
def totalLength (ops : List Operation) : UInt64 :=
  ops.foldl (fun total op => clip (total.toNat + (footprint op).toNat)) 0

/-- Compiles operations. -/
def ofOperations (ops : List Operation) : Scenario where
  operations := ops
  timeline := Timeline.ofOperations ops
  length := totalLength ops

/-- Reads and compiles a scenario string. -/
def compile (path : String) : Scenario := ofOperations (Token.operations path)

/-- The number of whole segments in the nominal length. -/
def segmentCount (s : Scenario) : UInt64 := UInt64.ofNat (s.length.toNat / segmentSeconds)

/-- Whether every action is about a listed segment or the one right after the last. -/
def isConsistent (s : Scenario) : Bool :=
  match s.timeline.maxIndex? with
  | some index => index ≤ s.segmentCount
  | none => true

/-- The treatment of the segment with this file name's stem. -/
def resolveSegment (s : Scenario) (stem : String) : Except InvalidSegment Treatment :=
  s.timeline.resolveName stem SegmentLength.nominal

end Scenario

end StreamRehearsal
