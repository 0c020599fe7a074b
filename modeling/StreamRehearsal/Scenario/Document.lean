import StreamRehearsal.Json.Printer
import StreamRehearsal.Json.Reader
import StreamRehearsal.Scenario.Basic

/-! # Scenarios as documents

Operations, actions, timelines, treatments and scenarios can be written as JSON and read back.

* Each type has `toDocument` and `ofDocument?`.
* Operations and treatments name their kind in a field of their own.  They are looked at as a
  whole before they are read, so all of their fields must make sense, the unknown ones too.
* `Scenario.toJson` is the text that shows a scenario to a reader, one part to a line. -/

namespace StreamRehearsal

/-- How deep lists and tables may be nested where they are looked at as a whole. -/
def nestingRoom : Nat := 127

namespace Document

/-- The document of a 64-bit count. -/
def ofCount (n : UInt64) : Document := natural n.toNat

/-- The document of a status code. -/
def ofCode (n : UInt16) : Document := natural n.toNat

/-- The document of a value that may be absent. -/
def ofOption {α : Type} (write : α → Document) : Option α → Document
  | some a => write a
  | none => null

/-- The kind and the fields of a record that names its kind, if all of it can be looked at. -/
def kindAndRest? (room : Nat) (tag : String) (d : Document) : Option (String × Document) :=
  if d.fits room then d.tagged? tag else none

/-- Reads a record whose only field is a count. -/
def countField? (name : String) (d : Document) : Option UInt64 :=
  (d.record? Json.dialect [name] 1).bind fun fs => fs.required name count?

/-- Reads a record whose only field is a status code. -/
def codeField? (name : String) (d : Document) : Option UInt16 :=
  (d.record? Json.dialect [name] 1).bind fun fs => fs.required name word16?

end Document

/-! ### Operations -/

namespace Operation

/-- An operation as a document. -/
def toDocument : Operation → Document
  | startup delay => .table [("kind", .text "startup"), ("delay_secs", .ofCount delay)]
  | playback duration => .table [("kind", .text "playback"), ("duration_secs", .ofCount duration)]
  | rebuffer delay => .table [("kind", .text "rebuffer"), ("delay_secs", .ofCount delay)]
  | failure code => .table [("kind", .text "error"), ("code", .ofCode code)]

/-- The operation that a document stands for, with this much room for nesting. -/
def ofDocument? (room : Nat) (d : Document) : Option Operation :=
  match d.kindAndRest? room "kind" with
  | some (kind, rest) =>
    if kind = "startup" then (rest.countField? "delay_secs").map startup
    else if kind = "playback" then (rest.countField? "duration_secs").map playback
    else if kind = "rebuffer" then (rest.countField? "delay_secs").map rebuffer
    else if kind = "error" then (rest.codeField? "code").map failure
    else none
  | none => none

end Operation

/-! ### Timelines -/

namespace SegmentAction

/-- An action as a document. -/
def toDocument (a : SegmentAction) : Document :=
  .table [("segment_index", .ofCount a.index), ("delay_secs", .ofOption .ofCount a.delay),
    ("error_code", .ofOption .ofCode a.code)]

/-- The action that a document stands for. -/
def ofDocument? (d : Document) : Option SegmentAction :=
  match d.record? Json.dialect ["segment_index", "delay_secs", "error_code"] 3 with
  | some fs => do
    let index ← fs.required "segment_index" Document.count?
    let delay ← fs.orElse "delay_secs" none (Document.optional? Document.count?)
    let code ← fs.orElse "error_code" none (Document.optional? Document.word16?)
    return ⟨index, delay, code⟩
  | none => none

end SegmentAction

namespace Timeline

/-- A timeline as a document. -/
def toDocument (t : Timeline) : Document := .list (t.actions.map SegmentAction.toDocument)

/-- The timeline that a document stands for. -/
def ofDocument? (d : Document) : Option Timeline :=
  (d.listOf? SegmentAction.ofDocument?).map Timeline.mk

end Timeline

/-! ### Treatments -/

namespace Treatment

/-- A treatment as a document. -/
def toDocument : Treatment → Document
  | normal => .table [("action", .text "normal")]
  | delayed delay => .table [("action", .text "delayed_normal"), ("delay_secs", .ofCount delay)]
  | failure code => .table [("action", .text "failure"), ("code", .ofCode code)]
  | delayedFailure delay code =>
    .table [("action", .text "delayed_failure"), ("delay_secs", .ofCount delay),
      ("code", .ofCode code)]

/-- Whether a document can stand for a record without fields: a table of any kind, or a list
without items. -/
def hasNoFields : Document → Bool
  | .table _ => true
  | .list items => items.isEmpty
  | _ => false

/-- The treatment that a document stands for, with this much room for nesting. -/
def ofDocument? (room : Nat) (d : Document) : Option Treatment :=
  match d.kindAndRest? room "action" with
  | some (kind, rest) =>
    if kind = "normal" then if hasNoFields rest then some normal else none
    else if kind = "delayed_normal" then (rest.countField? "delay_secs").map delayed
    else if kind = "failure" then (rest.codeField? "code").map failure
    else if kind = "delayed_failure" then
      match rest.record? Json.dialect ["delay_secs", "code"] 2 with
      | some fs => do
        let delay ← fs.required "delay_secs" Document.count?
        let code ← fs.required "code" Document.word16?
        return delayedFailure delay code
      | none => none
    else none
  | none => none

end Treatment

/-! ### Scenarios -/

namespace Scenario

/-- A scenario as a document. -/
def toDocument (s : Scenario) : Document :=
  .table [("operations", .list (s.operations.map Operation.toDocument)),
    ("timeline", s.timeline.toDocument), ("total_length_secs", .ofCount s.length)]

/-- The scenario that a document stands for; nothing is computed anew.  Its operations are nested
two deep. -/
def ofDocument? (d : Document) : Option Scenario :=
  match d.record? Json.dialect ["operations", "timeline", "total_length_secs"] 3 with
  | some fs => do
    let operations ← fs.required "operations"
      (Document.listOf? (Operation.ofDocument? (nestingRoom - 2)))
    let timeline ← fs.required "timeline" Timeline.ofDocument?
    let length ← fs.required "total_length_secs" Document.count?
    return ⟨operations, timeline, length⟩
  | none => none

/-- A scenario as JSON text for a reader. -/
def toJson (s : Scenario) : String := Json.pretty s.toDocument ++ "\n"

end Scenario

end StreamRehearsal
