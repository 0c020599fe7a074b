import StreamRehearsal.Proofs.Server.Delivery
import StreamRehearsal.Proofs.Server.History
import StreamRehearsal.Proofs.Storage.Paths

/-! # Answers to segment requests

A segment request goes through the path, the scenario, the treatment of the segment, the way in
which delays are spread, and the stub file.  Here its answer is said in terms of the treatment and
the stub alone.

* `answerTo_segment` takes the path and the scenario apart, and `resolvedReply_error`,
  `segmentReply_of_code` and `segmentReply_of_served` the treatment.  `settle_serveStub_file` and
  the two lemmas after it are the states in which the stub can be.
* `prompt_replyTo` is about everything else that can be asked for: nobody waits for it.
* `segment_refines_treatment` puts these together for every state that a server can be in.
* `status_eq_notFound_iff` says when a segment is not found: a stub that is a directory is the only
  cause that is not simulated. -/

namespace StreamRehearsal

/-! ### Delays -/

/-- The milliseconds of a delay in seconds, if there is one. -/
def Pacing.delayMillis (delay : Option UInt64) : Nat :=
  match delay with
  | some secs => min (1000 * secs.toNat) longestWait
  | none => 0

namespace DelayMode

/-- The time at which the head of a served segment is sent. -/
def headTime (mode : DelayMode) (delay : Option UInt64) : Nat :=
  match mode with
  | sleep => Pacing.delayMillis delay
  | throttle => 0

/-- The delay that is spread over the pieces of a served segment. -/
def spread (mode : DelayMode) (delay : Option UInt64) : Option UInt64 :=
  match mode with
  | sleep => none
  | throttle => delay

end DelayMode

/-- The answer to a request for a segment with this treatment, for a stub that is found like this.
Nothing is said of a stub that is a directory, except that it is not waited for under normal
service. -/
structure Answer.Follows (a : Answer) (mode : DelayMode)
    (stub : Except OpenFault Node) (t : Treatment) : Prop where
  failed : ∀ code, t.code? = some code →
    a.IsEmpty (if 200 ≤ code.toNat ∧ code.toNat ≤ 999 then code else 500)
      (Pacing.delayMillis t.delay?)
  delivered : t.code? = none → ∀ bytes, stub = .ok (.file bytes) →
    a.Delivers bytes (mode.headTime t.delay?)
  faulty : t.code? = none → ∀ fault, stub = .error fault →
    a.IsEmpty 500 (mode.headTime t.delay?)
  immediate : t = .normal → a.Immediate

namespace Server

theorem holdBack_eq {r : Reply} (h : r.wait = 0) (delay : Option UInt64) :
    holdBack delay r = r.after (Pacing.delayMillis delay) := by
  cases delay with
  | none => exact (congrArg (fun wait => { r with wait := wait }) h : r = r.after 0)
  | some secs => exact congrArg r.after (Pacing.wait_eq secs)

/-! ### The stub -/

variable {s : Server}

/-- The default settings look for the stub in a directory next to the program. -/
theorem find_stubPath_beside (node : Node) :
    (FileSystem.beside [("0.ts", node)]).find ({} : Config).media.stubPath = .ok node := by
  cases node with
  | file bytes => rfl
  | directory entries => rfl

/-- What is opened without a delay is sent without a wait. -/
theorem prompt_fileReply (path : String) (node : Node) :
    (settle (fileReply path none node)).Prompt := by
  cases node with
  | file bytes => exact Reply.prompt_file path bytes
  | directory entries => exact Reply.prompt_bare 404

/-- The milliseconds before each piece of a file that is spread over a delay, if there is one. -/
def pauseOf (bytes : ByteArray) (delay : Option UInt64) : Nat :=
  match delay with
  | some secs => Pacing.pause bytes.size secs
  | none => 0

theorem settle_serveStub_file {bytes : ByteArray}
    (h : s.files.find s.config.media.stubPath = .ok (.file bytes)) (delay : Option UInt64) :
    settle (s.serveStub delay) =
      Reply.file s.config.media.stubPath bytes (pauseOf bytes delay) := by
  simp only [serveStub, h]
  rfl

theorem settle_serveStub_directory {entries : Directory}
    (h : s.files.find s.config.media.stubPath = .ok (.directory entries)) (delay : Option UInt64) :
    settle (s.serveStub delay) = Reply.bare 404 := by
  simp only [serveStub, h]
  rfl

theorem settle_serveStub_fault {fault : OpenFault}
    (h : s.files.find s.config.media.stubPath = .error fault) (delay : Option UInt64) :
    settle (s.serveStub delay) = Reply.bare 500 := by
  simp only [serveStub, h]
  rfl

theorem wait_settle_serveStub (delay : Option UInt64) : (settle (s.serveStub delay)).wait = 0 := by
  cases h : s.files.find s.config.media.stubPath with
  | error fault => rw [settle_serveStub_fault h]; rfl
  | ok node =>
      cases node with
      | file bytes => rw [settle_serveStub_file h]; rfl
      | directory entries => rw [settle_serveStub_directory h]; rfl

/-! ### The treatment -/

theorem resolvedReply_error (request : InvalidSegment) :
    s.resolvedReply (.error request) = Reply.bare 400 :=
  rfl

theorem segmentReply_of_code {t : Treatment} {code : UInt16} (h : t.code? = some code) :
    s.segmentReply t = (failureReply code).after (Pacing.delayMillis t.delay?) := by
  rw [segmentReply, h]
  exact holdBack_eq rfl t.delay?

/-- Normal service has no waits, whatever the stub is. -/
theorem prompt_segmentReply_normal : (s.segmentReply .normal).Prompt := by
  have hreply : s.segmentReply .normal = settle (s.serveStub none) := by
    unfold segmentReply
    cases s.config.scenario.delayMode <;> rfl
  rw [hreply, serveStub]
  cases s.files.find s.config.media.stubPath with
  | ok node => exact prompt_fileReply _ node
  | error fault => exact Reply.prompt_bare 500

theorem segmentReply_of_served {t : Treatment} (h : t.code? = none) :
    s.segmentReply t =
      (settle (s.serveStub (s.config.scenario.delayMode.spread t.delay?))).after
        (s.config.scenario.delayMode.headTime t.delay?) := by
  rw [segmentReply, h]
  dsimp only
  cases s.config.scenario.delayMode with
  | sleep => exact holdBack_eq (wait_settle_serveStub none) t.delay?
  | throttle => exact holdBack_eq (wait_settle_serveStub t.delay?) none

/-! ### Requests -/

theorem answerTo_segment {r : Request} {stem : String} {result : Except InvalidSegment Treatment}
    (hread : isReading r.method = true)
    (hkind : (Target.ofPath r.path s.config.scenario.ignore).kind = .segment stem)
    (hresult : (Scenario.compile
      (Target.ofPath r.path s.config.scenario.ignore).scenario).resolveSegment stem = result) :
    s.answerTo r = some (s.resolvedReply result).answer := by
  have hpath : r.path ≠ healthPath := ne_healthPath_of_kind hkind nofun nofun
  rw [s.answerTo_of_isReading hread hpath]
  simp only [replyTo, hkind, hresult, Option.map_some]

theorem prompt_serveStatic (name : String) : (settle (s.serveStatic name)).Prompt := by
  unfold serveStatic
  dsimp only
  cases s.files.find (s.config.media.pathOf name) with
  | ok node => exact prompt_fileReply _ node
  | error fault => cases fault <;> exact Reply.prompt_bare _

theorem prompt_topPlaylist : (settle s.topPlaylist).Prompt := by
  unfold topPlaylist
  split
  · exact Reply.prompt_playlist _
  · exact s.prompt_serveStatic mediaName

/-- Only segments are waited for. -/
theorem prompt_replyTo {target : Target} (h : ∀ stem, target.kind ≠ .segment stem) {reply : Reply}
    (hreply : s.replyTo target = some reply) : reply.Prompt := by
  obtain ⟨-, rfl⟩ | ⟨-, rfl⟩ | ⟨-, text, -, rfl⟩ | ⟨stem, hkind, -⟩ | ⟨name, -, rfl⟩ :=
    replyTo_cases hreply
  · exact Reply.prompt_bare 204
  · exact prompt_topPlaylist
  · exact Reply.prompt_playlist text
  · exact absurd hkind (h stem)
  · exact prompt_serveStatic name

theorem prompt_healthReply (method : String) : (healthReply method).Prompt := by
  unfold healthReply
  split
  · exact Reply.prompt_bare 200
  · exact ⟨rfl, rfl⟩

theorem immediate_answerTo {r : Request}
    (h : isReading r.method = true →
      ∀ stem, (Target.ofPath r.path s.config.scenario.ignore).kind ≠ .segment stem)
    {answer : Answer} (hanswer : s.answerTo r = some answer) : answer.Immediate := by
  obtain ⟨-, rfl⟩ | ⟨-, reply, rfl, hreply⟩ := answerTo_cases hanswer
  · exact Answer.immediate_preflight _
  obtain rfl | rfl | ⟨hread, hreply⟩ := hreply
  · exact (prompt_healthReply r.method).immediate
  · exact (Reply.prompt_bare 405).immediate
  · exact (prompt_replyTo (h hread) hreply).immediate

/-! ### What a client gets -/

theorem follows_segmentReply (s : Server) (t : Treatment) :
    (s.segmentReply t).answer.Follows s.config.scenario.delayMode
      (s.files.find s.config.media.stubPath) t where
  failed code hcode := by
    rw [segmentReply_of_code hcode]
    exact Reply.isEmpty_answer_bare _ _
  delivered hcode bytes hfile := by
    rw [segmentReply_of_served hcode, settle_serveStub_file hfile]
    exact Reply.delivers_answer_file _ _ _ _
  faulty hcode fault hfault := by
    rw [segmentReply_of_served hcode, settle_serveStub_fault hfault]
    exact Reply.isEmpty_answer_bare _ _
  immediate := by
    rintro rfl
    exact prompt_segmentReply_normal.immediate

/-- **A segment request is answered as its treatment says**, whatever was asked before.  A name
that is no index is a bad request, and every other segment follows its treatment, with the file that
the path of the stub leads to, wherever that is.  Nothing else that can be asked for is waited for. -/
theorem segment_refines_treatment (config : Config) (files : FileSystem) (history : List Request)
    (r : Request) :
    let answer? := (((start config files).run history).2.step r).1
    let target := Target.ofPath r.path config.scenario.ignore
    (isReading r.method = true → ∀ stem, target.kind = .segment stem →
      ∃ answer, answer? = some answer ∧
        match (Scenario.compile target.scenario).resolveSegment stem with
        | .error _ => answer.IsEmpty 400 0
        | .ok t => answer.Follows config.scenario.delayMode (files.find config.media.stubPath) t) ∧
    ((isReading r.method = true → ∀ stem, target.kind ≠ .segment stem) →
      ∀ answer, answer? = some answer → answer.Immediate) := by
  intro answer? target
  have hanswer : answer? = (start config files).answerTo r :=
    ((serves_start config files).run history).fst_step r
  rw [hanswer]
  refine ⟨fun hread stem hkind => ?_, fun hother answer => immediate_answerTo hother⟩
  cases hresult : (Scenario.compile target.scenario).resolveSegment stem with
  | error request =>
      exact ⟨_, answerTo_segment hread hkind hresult, Reply.isEmpty_answer_bare 400 0⟩
  | ok t =>
      exact ⟨_, answerTo_segment hread hkind hresult, follows_segmentReply (start config files) t⟩

/-- The stub need not be in the media directory: its path may lead out of it and back, or anywhere
else. -/
theorem segment_refines_treatment_of_detour :
    let config : Config := { media := { stub := "../media/0.ts" } }
    let files := FileSystem.beside [("0.ts", .file ⟨#[71]⟩)]
    let r := Request.ofUri "GET" "/p5-r10/1.ts"
    isReading r.method = true ∧
      (Target.ofPath r.path config.scenario.ignore).kind = .segment "1" ∧
      ∃ answer, (((start config files).run [Request.ofUri "GET" "/p5/0.ts"]).2.step r).1 =
          some answer ∧
        answer.Delivers ⟨#[71]⟩ 10000 := by
  have hread : isReading (Request.ofUri "GET" "/p5-r10/1.ts").method = true := by decide
  have hkind : (Target.ofPath (Request.ofUri "GET" "/p5-r10/1.ts").path
    ({} : Config).scenario.ignore).kind = .segment "1" := by decide
  obtain ⟨answer, hanswer, follows⟩ :=
    (segment_refines_treatment { media := { stub := "../media/0.ts" } }
      (FileSystem.beside [("0.ts", .file ⟨#[71]⟩)]) [Request.ofUri "GET" "/p5/0.ts"]
      (Request.ofUri "GET" "/p5-r10/1.ts")).1 hread "1" hkind
  exact ⟨hread, hkind, answer, hanswer,
    (follows : answer.Follows .sleep _ (.delayed 10)).delivered rfl ⟨#[71]⟩ rfl⟩

/-! ### What is not found -/

theorem status_failureReply_eq_iff {code other : UInt16}
    (h : other ≠ 500 ∧ 200 ≤ other.toNat ∧ other.toNat ≤ 999) :
    (failureReply code).status = other ↔ code = other := by
  show (if 200 ≤ code.toNat ∧ code.toNat ≤ 999 then code else 500) = other ↔ code = other
  split
  next => exact Iff.rfl
  next hcode =>
    -- the code is replaced by 500, and neither of the two is the other code
    constructor
    · exact fun e => absurd e.symm h.1
    · rintro rfl
      exact absurd h.2 hcode

theorem status_segmentReply_eq_notFound_iff (t : Treatment) :
    (s.segmentReply t).status = 404 ↔
      t.code? = some 404 ∨
        t.code? = none ∧ ∃ entries, s.files.find s.config.media.stubPath = .ok (.directory entries) := by
  cases hcode : t.code? with
  | some code =>
      rw [segmentReply_of_code hcode, Reply.status_after, status_failureReply_eq_iff (by decide)]
      simp
  | none =>
      rw [segmentReply_of_served hcode, Reply.status_after]
      cases hstub : s.files.find s.config.media.stubPath with
      | error fault => simp [settle_serveStub_fault hstub]
      | ok node =>
          cases node with
          | file bytes => simp [settle_serveStub_file hstub]
          | directory entries => simp [settle_serveStub_directory hstub]

/-- **A segment is not found in two cases**: its treatment is to be failed with that code, or it is
to be served and the path of the stub leads to a directory. -/
theorem status_eq_notFound_iff (config : Config) (files : FileSystem) (history : List Request)
    {r : Request} {stem : String} (hread : isReading r.method = true)
    (hkind : (Target.ofPath r.path config.scenario.ignore).kind = .segment stem) :
    ∃ answer, (((start config files).run history).2.step r).1 = some answer ∧
      (answer.status = 404 ↔
        ∃ t, (Scenario.compile
            (Target.ofPath r.path config.scenario.ignore).scenario).resolveSegment stem = .ok t ∧
          (t.code? = some 404 ∨
            t.code? = none ∧
              ∃ entries, files.find config.media.stubPath = .ok (.directory entries))) := by
  rw [((serves_start config files).run history).fst_step r]
  cases hresult : (Scenario.compile
      (Target.ofPath r.path config.scenario.ignore).scenario).resolveSegment stem with
  | error request =>
      refine ⟨_, answerTo_segment hread hkind hresult, ?_⟩
      simp [resolvedReply_error]
  | ok t =>
      refine ⟨_, answerTo_segment hread hkind hresult, ?_⟩
      have hstatus := status_segmentReply_eq_notFound_iff (s := start config files) t
      constructor
      · exact fun h => ⟨t, rfl, hstatus.1 h⟩
      · rintro ⟨t', e, h⟩
        obtain rfl : t = t' := Except.ok.inj e
        exact hstatus.2 h

theorem status_eq_notFound_iff_of_simulated :
    let config : Config := {}
    let files := FileSystem.beside [("0.ts", .directory [])]
    let r := Request.ofUri "GET" "/e404/0.ts"
    isReading r.method = true ∧
      (Target.ofPath r.path config.scenario.ignore).kind = .segment "0" ∧
      ∃ answer, (((start config files).run [Request.ofUri "GET" "/p5/0.ts"]).2.step r).1 =
          some answer ∧
        answer.status = 404 := by
  have hread : isReading (Request.ofUri "GET" "/e404/0.ts").method = true := by decide
  have hkind : (Target.ofPath (Request.ofUri "GET" "/e404/0.ts").path
    ({} : Config).scenario.ignore).kind = .segment "0" := by decide
  obtain ⟨answer, hanswer, hstatus⟩ :=
    status_eq_notFound_iff {} (FileSystem.beside [("0.ts", .directory [])])
      [Request.ofUri "GET" "/p5/0.ts"] hread hkind
  exact ⟨hread, hkind, answer, hanswer, hstatus.2 ⟨.failure 404, rfl, .inl rfl⟩⟩

/-- The second case occurs: the stub of a valid configuration is a directory, and a segment under
normal service is not found. -/
theorem notFound_of_directory_stub :
    let config : Config := {}
    let files := FileSystem.beside [("0.ts", .directory [])]
    let r := Request.ofUri "GET" "/p5/0.ts"
    let target := Target.ofPath r.path config.scenario.ignore
    config.fault? = none ∧ isReading r.method = true ∧ target.kind = .segment "0" ∧
      (Scenario.compile target.scenario).resolveSegment "0" = .ok .normal ∧
      ((start config files).step r).1.map Answer.status = some 404 :=
  ⟨by decide, by decide, by decide, rfl, by decide⟩

end Server

end StreamRehearsal
