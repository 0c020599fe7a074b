import StreamRehearsal.Text.Quoted

/-! # Configuration

The settings of a server, in three sections, each field with a default.

* `Config` has the sections `Config.Endpoint` (where the server listens), `Config.Media` (what it
  serves) and `Config.Rehearsal` (how it rehearses scenarios); `{}` has every default.
* `Config.fault?` is the first thing wrong with a configuration: a port of zero, or the name of a
  stub segment that is no plain file name. -/

namespace StreamRehearsal

/-- How a delayed segment is delivered. -/
inductive DelayMode where
  /-- Nothing is sent until the whole delay is over. -/
  | sleep
  /-- The pieces of the segment are spread over the delay. -/
  | throttle
  deriving DecidableEq, Repr

namespace DelayMode

/-- The name of a mode in documents and on the command line. -/
def name : DelayMode → String
  | sleep => "sleep"
  | throttle => "throttle"

/-- The name of a mode in reports. -/
def title : DelayMode → String
  | sleep => "Sleep"
  | throttle => "Throttle"

/-- The mode with this name; names are case sensitive. -/
def ofName? (s : String) : Option DelayMode :=
  if s = "sleep" then some sleep else if s = "throttle" then some throttle else none

@[simp] theorem ofName?_name (m : DelayMode) : ofName? m.name = some m := by
  cases m <;> decide

end DelayMode

/-- Where a server listens. -/
structure Config.Endpoint where
  host : String := "0.0.0.0"
  port : UInt16 := 3000
  deriving DecidableEq, Repr

/-- What a server serves. -/
structure Config.Media where
  /-- The directory with the stub segment and the static files. -/
  dir : String := "./media"
  /-- The name of the file that is served for every segment. -/
  stub : String := "0.ts"
  /-- The bandwidth that the generated master playlist states, in bits per second. -/
  bandwidth : UInt32 := 1000000
  /-- The width and height that the generated master playlist states. -/
  resolution : Option (UInt32 × UInt32) := none
  /-- The codecs that the generated master playlist states. -/
  codecs : Option String := none
  deriving DecidableEq, Repr

/-- How a server rehearses scenarios. -/
structure Config.Rehearsal where
  /-- The number of compiled scenarios that are kept; zero keeps none. -/
  cacheEntries : UInt64 := 1024
  delayMode : DelayMode := .sleep
  /-- The file names that browsers ask for on their own; they are answered with nothing. -/
  ignore : List String :=
    ["favicon.ico", "apple-touch-icon-precomposed.png", "apple-touch-icon.png"]
  deriving DecidableEq, Repr

/-- The settings of a server. -/
structure Config where
  server : Config.Endpoint := {}
  media : Config.Media := {}
  scenario : Config.Rehearsal := {}
  deriving DecidableEq, Repr

namespace Config

/-- Whether a name is the name of an entry of a directory: not empty, without separators of either
style, and not one of the names for the directory itself and its parent. -/
def isPlainName (name : String) : Bool :=
  name ≠ "" && !name.toList.any (fun c => c == '/' || c == '\\') && name ≠ "." && name ≠ ".."

/-- What can be wrong with a configuration. -/
inductive Fault where
  | portZero
  | stubNotPlain (stub : String)
  deriving DecidableEq, Repr

/-- The words for a fault. -/
def Fault.message : Fault → String
  | portZero => "Server port cannot be 0"
  | stubNotPlain stub =>
    "Stub segment must be a plain filename inside the media dir, got " ++ Quoted.text stub

/-- The first fault of a configuration; the port is looked at first. -/
def fault? (c : Config) : Option Fault :=
  if c.server.port = 0 then some .portZero
  else if isPlainName c.media.stub then none
  else some (.stubNotPlain c.media.stub)

end Config

end StreamRehearsal
