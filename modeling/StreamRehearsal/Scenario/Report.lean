import StreamRehearsal.Scenario.Basic
import StreamRehearsal.Text.Lines

/-! # Reports

A report tells a reader how a scenario string was understood: the string, a line for every token
that is not empty, a line for every action of the timeline, and the nominal length.

* `Report.lines path` is the report line by line, and `Report.text path` its text. -/

namespace StreamRehearsal.Report

/-- An operation in words. -/
def summary : Operation → String
  | .startup delay => "startup delay " ++ Decimal.text delay.toNat ++ "s"
  | .playback duration => "playback " ++ Decimal.text duration.toNat ++ "s"
  | .rebuffer delay => "rebuffer " ++ Decimal.text delay.toNat ++ "s"
  | .failure code => "error " ++ Decimal.text code.toNat

/-- The line about a token; an empty token has none. -/
def tokenLine? : Token → Option String
  | .operation op => some ("  " ++ Lines.pad 8 op.token ++ " " ++ summary op)
  | .unknown letter => some ("  (ignored token starting with " ++ Quoted.character letter ++ ")")
  | .empty => none

/-- The part of an action's line about its delay. -/
def delayPart : Option UInt64 → String
  | some delay => " delay " ++ Decimal.text delay.toNat ++ "s"
  | none => ""

/-- The part of an action's line about its status code. -/
def codePart : Option UInt16 → String
  | some code => " error " ++ Decimal.text code.toNat
  | none => ""

/-- The line about an action of the timeline. -/
def actionLine (a : SegmentAction) : String :=
  "  segment " ++ Decimal.text a.index.toNat ++ ":" ++ delayPart a.delay ++ codePart a.code

/-- The line about the nominal length. -/
def lengthLine (s : Scenario) : String :=
  "Total length: " ++ Decimal.text s.length.toNat ++ "s (" ++
    Decimal.text s.segmentCount.toNat ++ " segments of " ++ Decimal.text segmentSeconds ++ "s)"

/-- The lines of the report about a scenario string. -/
def lines (path : String) : List String :=
  let s := Scenario.compile path
  ["Scenario: " ++ path, "", "Operations: " ++ Decimal.text s.operations.length] ++
    (Token.all path).filterMap tokenLine? ++
    ["", "Timeline: " ++ Decimal.text s.timeline.size ++ " actions"] ++
    s.timeline.actions.map actionLine ++
    ["", lengthLine s]

/-- The text of the report about a scenario string. -/
def text (path : String) : String := Lines.text (lines path)

end StreamRehearsal.Report
