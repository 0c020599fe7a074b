import StreamRehearsal.Server.ContentType
import StreamRehearsal.Server.Pacing
import StreamRehearsal.Text.Decimal

/-! # Replies and answers

A handler decides on a reply; the answer is what a client sees of it, and when.

* A `Reply` has a status, a wait before anything is sent, and its content.
* An `Answer` has a status, the headers in the order of their names, the time of the head and the
  pieces of the body with their times, in milliseconds from the start of the request.
* `Reply.answer` is the answer that a reply leads to; `Answer.preflight` is the answer to a
  browser that asks what it may ask for. -/

namespace StreamRehearsal

/-- What a reply holds besides its status. -/
inductive Content where
  | nothing
  /-- A generated playlist. -/
  | playlist (text : String)
  /-- A file, with the milliseconds to wait before each of its pieces. -/
  | file (path : String) (bytes : ByteArray) (pause : Nat)

/-- What a handler decides on. -/
structure Reply where
  status : UInt16
  /-- The milliseconds to wait before anything is sent. -/
  wait : Nat
  content : Content
  /-- Whether the methods that a client may use are listed. -/
  listsMethods : Bool

namespace Reply

/-- A reply without content. -/
def bare (status : UInt16) : Reply := ⟨status, 0, .nothing, false⟩

/-- A reply with a generated playlist. -/
def playlist (text : String) : Reply := ⟨200, 0, .playlist text, false⟩

/-- A reply with a file, and the milliseconds to wait before each of its pieces. -/
def file (path : String) (bytes : ByteArray) (pause : Nat) : Reply :=
  ⟨200, 0, .file path bytes pause, false⟩

/-- The same reply after a wait. -/
def after (r : Reply) (millis : Nat) : Reply := { r with wait := millis }

@[simp] theorem status_bare (status : UInt16) : (bare status).status = status := rfl

@[simp] theorem status_file (path : String) (bytes : ByteArray) (pause : Nat) :
    (file path bytes pause).status = 200 :=
  rfl

@[simp] theorem status_after (r : Reply) (millis : Nat) : (r.after millis).status = r.status := rfl

end Reply

/-- One piece of a body, with the time at which it is sent. -/
structure Frame where
  time : Nat
  bytes : ByteArray

/-- What a client sees. -/
structure Answer where
  status : UInt16
  /-- The headers and their values, in the order of their names. -/
  headers : List (String × String)
  /-- The time at which the head is sent. -/
  headTime : Nat
  frames : List Frame

namespace Answer

/-- The time at which the body has ended. -/
def doneTime (a : Answer) : Nat :=
  match a.frames.getLast? with
  | some frame => frame.time
  | none => a.headTime

/-- The bytes of the body. -/
def body (a : Answer) : ByteArray := a.frames.foldl (fun body frame => body ++ frame.bytes) .empty

/-- The value of a header. -/
def header? (a : Answer) (name : String) : Option String :=
  (a.headers.find? fun h => h.1 == name).map Prod.snd

/-- The methods that a client may use. -/
def methods : String := "GET,HEAD"

/-- The header with the methods that a client may use, where they are listed. -/
def allowHeader (listsMethods : Bool) : List (String × String) :=
  if listsMethods then [("allow", methods)] else []

/-- The answer to a browser that asks what it may ask for. -/
def preflight (listsMethods : Bool) : Answer where
  status := 200
  headers :=
    [("access-control-allow-headers", "*"), ("access-control-allow-methods", methods),
      ("access-control-allow-origin", "*")] ++ allowHeader listsMethods ++
      [("content-length", "0")]
  headTime := 0
  frames := []

end Answer

namespace Content

/-- The number of bytes of a content. -/
def size : Content → Nat
  | nothing => 0
  | playlist text => text.toUTF8.size
  | file _ bytes _ => bytes.size

/-- The headers about a content, in the order of their names. -/
def headers (c : Content) : List (String × String) :=
  let length := ("content-length", Decimal.text c.size)
  match c with
  | nothing => [length]
  | playlist _ => [("cache-control", "no-cache"), length, ("content-type", ContentType.playlist)]
  | file path _ _ =>
    [("cache-control", "no-cache"), length, ("content-type", ContentType.ofPath path)]

/-- The pieces of a content, sent from this time on. -/
def frames (start : Nat) : Content → List Frame
  | nothing => []
  | playlist text => [⟨start, text.toUTF8⟩]
  | file _ bytes pause =>
    (Pacing.pieces bytes).mapIdx fun i piece => ⟨start + (i + 1) * pause, piece⟩

end Content

namespace Reply

/-- The answer that a reply leads to. -/
def answer (r : Reply) : Answer where
  status := r.status
  headers := [("access-control-allow-origin", "*")] ++ Answer.allowHeader r.listsMethods ++
    r.content.headers ++ [("server", "hlsfixture")]
  headTime := r.wait
  frames := r.content.frames r.wait

@[simp] theorem status_answer (r : Reply) : r.answer.status = r.status := rfl

end Reply

end StreamRehearsal
