import StreamRehearsal.Config.Basic
import StreamRehearsal.Playlist.Master
import StreamRehearsal.Playlist.Media
import StreamRehearsal.Server.Failure
import StreamRehearsal.Server.Reply
import StreamRehearsal.Server.Request
import StreamRehearsal.Server.Store
import StreamRehearsal.Server.Target
import StreamRehearsal.Storage.FileSystem

/-! # The server

A server answers requests one after the other.  Its settings and its files stay as they are; only
the scenario store changes.

* `Server.handle` decides on the reply to a request for a target, `Server.step` answers any
  request, and `Server.run` a list of them.
* A request for a playlist that is too large to be held is not answered at all, and the server goes
  on with the next one.
* A segment is failed or held back as its scenario demands, and otherwise the stub is served for
  it: after the delay in one mode, in pieces spread over the delay in the other.
* The top-level playlist is a file of the media directory, or is generated if there is none. -/

namespace StreamRehearsal

namespace Config.Media

/-- The path of a file in the media directory. -/
def pathOf (m : Config.Media) (name : String) : String := FileSystem.pathIn m.dir name

/-- The path of the stub segment. -/
def stubPath (m : Config.Media) : String := m.pathOf m.stub

end Config.Media

/-- A server between two requests. -/
structure Server where
  config : Config
  files : FileSystem
  store : Store

namespace Server

/-- A server that has not been asked for anything. -/
def start (config : Config) (files : FileSystem) : Server :=
  ⟨config, files, Store.ofCapacity config.scenario.cacheEntries.toNat⟩

/-! ### Files -/

/-- The reply with an opened file; a delay in seconds is spread over its pieces. -/
def fileReply (path : String) (delay : Option UInt64) : Node → Except Failure Reply
  | .file bytes =>
    .ok (Reply.file path bytes
      (match delay with
        | some secs => Pacing.pause bytes.size secs
        | none => 0))
  | .directory _ => .error (.notFound path)

/-- Serves a file of the media directory under its own name. -/
def serveStatic (s : Server) (name : String) : Except Failure Reply :=
  let path := s.config.media.pathOf name
  match s.files.find path with
  | .ok node => fileReply path none node
  | .error .missing => .error (.notFound path)
  | .error fault => .error (.storage fault.message)

/-- Serves the stub segment; a delay in seconds is spread over its pieces.  A stub that cannot be
opened is the server's fault, not the client's. -/
def serveStub (s : Server) (delay : Option UInt64) : Except Failure Reply :=
  let path := s.config.media.stubPath
  match s.files.find path with
  | .ok node => fileReply path delay node
  | .error fault => .error (.stubUnavailable path fault.message)

/-! ### Playlists -/

/-- The master playlist that is generated from the settings. -/
def generatedMaster (c : Config.Media) : MasterPlaylist :=
  MasterPlaylist.empty.add
    { StreamVariant.rendition c.bandwidth with resolution := c.resolution, codecs := c.codecs }

/-- Serves the top-level playlist. -/
def topPlaylist (s : Server) : Except Failure Reply :=
  match s.serveStatic mediaName with
  | .error (.notFound _) => .ok (Reply.playlist (generatedMaster s.config.media).text)
  | served => served

/-- The rendition playlist of a scenario. -/
def renditionPlaylist? (scenario : Scenario) : Option MediaPlaylist :=
  MediaPlaylist.ofCount? scenario.segmentCount SegmentLength.nominal.seconds

/-- The text of the rendition playlist of a scenario. -/
def renditionText? (scenario : Scenario) : Option String :=
  (renditionPlaylist? scenario).bind MediaPlaylist.render?

/-! ### Segments -/

/-- The reply with the status code of a failed segment; a code that cannot end an answer becomes
500. -/
def failureReply (code : UInt16) : Reply :=
  Reply.bare (if 200 ≤ code.toNat ∧ code.toNat ≤ 999 then code else 500)

/-- The reply, whether or not the request can be answered. -/
def settle : Except Failure Reply → Reply
  | .ok reply => reply
  | .error failure => Reply.bare failure.status

/-- Holds back a reply for a number of seconds. -/
def holdBack (delay : Option UInt64) (r : Reply) : Reply :=
  match delay with
  | some secs => r.after (Pacing.wait secs)
  | none => r

/-- The reply to a request for a segment that is treated in this way. -/
def segmentReply (s : Server) (t : Treatment) : Reply :=
  match t.code? with
  | some code => holdBack t.delay? (failureReply code)
  | none =>
    match s.config.scenario.delayMode with
    | .sleep => holdBack t.delay? (settle (s.serveStub none))
    | .throttle => settle (s.serveStub t.delay?)

/-- The reply to a request for a segment, whose name may turn out to be no index. -/
def resolvedReply (s : Server) : Except InvalidSegment Treatment → Reply
  | .ok treatment => s.segmentReply treatment
  | .error request => settle (.error (.invalidSegment request))

/-! ### Requests -/

/-- The compiled scenario for a scenario string at a time, and the server after the look into its
store. -/
def scenario (s : Server) (time : Nat) (path : String) : Scenario × Server :=
  let (object, store) := s.store.get time path
  (object.scenario, { s with store := store })

/-- The reply to a request for a target at a time, and the server after it.  Only the rendition
playlist and the segments depend on the scenario, and only the rendition playlist may be too large
for a reply. -/
def handle (s : Server) (time : Nat) (target : Target) : Option Reply × Server :=
  match target.kind with
  | .ignored => (some (Reply.bare 204), s)
  | .mediaPlaylist => (some (settle s.topPlaylist), s)
  | .renditionPlaylist =>
    let (scenario, next) := s.scenario time target.scenario
    ((renditionText? scenario).map Reply.playlist, next)
  | .segment stem =>
    let (scenario, next) := s.scenario time target.scenario
    (some (s.resolvedReply (scenario.resolveSegment stem)), next)
  | .static name => (some (settle (s.serveStatic name)), s)

/-- Whether files and playlists can be asked for with this method. -/
def isReading (method : String) : Bool := method == "GET" || method == "HEAD"

/-- The path at which a server tells that it is there. -/
def healthPath : String := "/health"

/-- The reply to a request for `healthPath`. -/
def healthReply (method : String) : Reply :=
  if isReading method then Reply.bare 200
  else { Reply.bare 405 with listsMethods := true }

/-- The answer to a request if there is one, and the server after it. -/
def step (s : Server) (r : Request) : Option Answer × Server :=
  if r.method = "OPTIONS" then (some (Answer.preflight (r.path = healthPath)), s)
  else if r.path = healthPath then (some (healthReply r.method).answer, s)
  else if isReading r.method then
    let (reply, next) := s.handle r.time (Target.ofPath r.path s.config.scenario.ignore)
    (reply.map Reply.answer, next)
  else (some (Reply.bare 405).answer, s)

/-- The answers to a list of requests, and the server after them. -/
def run (s : Server) : List Request → List (Option Answer) × Server
  | [] => ([], s)
  | r :: rs =>
    let (answer, next) := s.step r
    let (answers, last) := next.run rs
    (answer :: answers, last)

end Server

end StreamRehearsal
