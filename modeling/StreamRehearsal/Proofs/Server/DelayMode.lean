import StreamRehearsal.Proofs.Server.Throttle

/-! # The two delay modes

Whether a delay is waited for before a segment or on the way through it, the client gets the same.

* `Reply.untimed` takes every wait out of a reply, and nothing out of the headers and the body of its
  answer (`Reply.headers_answer_untimed`, `Reply.body_answer_untimed`).
* `untimed_segmentReply` says that what is left of a segment's reply does not depend on the mode, and
  `segmentReply_delaying` that the whole reply does not unless the segment is served late.
* `delayMode_changes_only_timing` compares two runs of the same requests, one in each mode. -/

namespace StreamRehearsal

/-- The same settings with another delay mode. -/
def Config.delaying (c : Config) (mode : DelayMode) : Config :=
  { c with scenario := { c.scenario with delayMode := mode } }

/-! ### Replies without their waits -/

/-- The same content without a wait before each piece. -/
def Content.unpaced : Content → Content
  | nothing => nothing
  | playlist text => playlist text
  | file path bytes _ => file path bytes 0

namespace Content

@[simp] theorem headers_unpaced (c : Content) : c.unpaced.headers = c.headers := by
  cases c <;> rfl

@[simp] theorem bytes_unpaced (c : Content) : c.unpaced.bytes = c.bytes := by
  cases c <;> rfl

end Content

/-- The answers have the same status, headers and body. -/
structure Answer.SameContent (a b : Answer) : Prop where
  status_eq : a.status = b.status
  headers_eq : a.headers = b.headers
  body_eq : a.body = b.body

theorem Answer.SameContent.refl (a : Answer) : a.SameContent a := ⟨rfl, rfl, rfl⟩

namespace Reply

/-- The same reply without any wait. -/
def untimed (r : Reply) : Reply := { r with wait := 0, content := r.content.unpaced }

@[simp] theorem untimed_after (r : Reply) (millis : Nat) :
    (r.after millis).untimed = r.untimed :=
  rfl

@[simp] theorem untimed_file (path : String) (bytes : ByteArray) (pause : Nat) :
    (file path bytes pause).untimed = file path bytes 0 :=
  rfl

theorem headers_answer_untimed (r : Reply) : r.untimed.answer.headers = r.answer.headers := by
  simp [answer, untimed]

theorem body_answer_untimed (r : Reply) : r.untimed.answer.body = r.answer.body := by
  rw [body_answer, body_answer]
  exact r.content.bytes_unpaced

/-- Replies that differ in their waits only lead to the same content. -/
theorem sameContent_of_untimed_eq {r r' : Reply} (h : r.untimed = r'.untimed) :
    r.answer.SameContent r'.answer where
  status_eq := by
    show r.untimed.status = r'.untimed.status
    rw [h]
  headers_eq := by rw [← headers_answer_untimed, h, headers_answer_untimed]
  body_eq := by rw [← body_answer_untimed, h, body_answer_untimed]

end Reply

namespace Server

/-! ### Replies in both modes -/

variable {s : Server}

theorem untimed_settle_serveStub (delay : Option UInt64) :
    (settle (s.serveStub delay)).untimed = (settle (s.serveStub none)).untimed := by
  cases hstub : s.files.find s.config.media.stubPath with
  | error fault => rw [settle_serveStub_fault hstub, settle_serveStub_fault hstub]
  | ok node =>
      cases node with
      | file bytes =>
          rw [settle_serveStub_file hstub, settle_serveStub_file hstub, Reply.untimed_file,
            Reply.untimed_file]
      | directory entries =>
          rw [settle_serveStub_directory hstub, settle_serveStub_directory hstub]

/-- Without its waits, the reply to a segment is the failure or the stub at once. -/
theorem untimed_segmentReply (t : Treatment) :
    (s.segmentReply t).untimed =
      match t.code? with
      | some code => (failureReply code).untimed
      | none => (settle (s.serveStub none)).untimed := by
  cases hcode : t.code? with
  | some code => rw [segmentReply_of_code hcode, Reply.untimed_after]
  | none => rw [segmentReply_of_served hcode, Reply.untimed_after, untimed_settle_serveStub]

variable (config : Config) (mode mode' : DelayMode) (files : FileSystem)

theorem untimed_segmentReply_delaying (t : Treatment) :
    ((start (config.delaying mode) files).segmentReply t).untimed =
      ((start (config.delaying mode') files).segmentReply t).untimed := by
  rw [untimed_segmentReply, untimed_segmentReply]
  rfl

/-- Only a segment that is served late is treated differently in the two modes. -/
theorem segmentReply_delaying {t : Treatment} (h : ∀ secs, t ≠ .delayed secs) :
    (start (config.delaying mode) files).segmentReply t =
      (start (config.delaying mode') files).segmentReply t := by
  cases t with
  | normal =>
      rw [segmentReply_of_served rfl, segmentReply_of_served rfl]
      cases mode <;> cases mode' <;> rfl
  | delayed secs => exact absurd rfl (h secs)
  | failure code => rfl
  | delayedFailure secs code => rfl

/-! ### Answers in both modes -/

/-- To compare the answers to a request in two modes it is enough to compare the replies to a
segment, for the treatment that is asked for. -/
theorem answerTo_delaying {R : Option Answer → Option Answer → Prop} (hrefl : ∀ a, R a a) {r : Request}
    (hsegment : ∀ stem t, isReading r.method = true →
      (Target.ofPath r.path config.scenario.ignore).kind = .segment stem →
      (Scenario.compile (Target.ofPath r.path config.scenario.ignore).scenario).resolveSegment
        stem = .ok t →
      R (some ((start (config.delaying mode) files).segmentReply t).answer)
        (some ((start (config.delaying mode') files).segmentReply t).answer)) :
    R ((start (config.delaying mode) files).answerTo r)
      ((start (config.delaying mode') files).answerTo r) := by
  unfold answerTo
  split
  · exact hrefl _
  split
  · exact hrefl _
  split
  next hread =>
    show R ((replyTo _ (Target.ofPath r.path config.scenario.ignore)).map Reply.answer)
      ((replyTo _ (Target.ofPath r.path config.scenario.ignore)).map Reply.answer)
    unfold replyTo
    cases hkind : (Target.ofPath r.path config.scenario.ignore).kind with
    | ignored => exact hrefl _
    | mediaPlaylist => exact hrefl _
    | renditionPlaylist => exact hrefl _
    | segment stem =>
        dsimp only
        cases hresult : (Scenario.compile
            (Target.ofPath r.path config.scenario.ignore).scenario).resolveSegment stem with
        | error request => exact hrefl _
        | ok t => exact hsegment stem t hread hkind hresult
    | static name => exact hrefl _
  next => exact hrefl _

theorem rel_sameContent_refl : ∀ a : Option Answer, Option.Rel Answer.SameContent a a
  | some a => .some (.refl a)
  | none => .none

/-- **The delay mode changes only timing.**  Two runs of the same requests, one in each mode, give
each request the same status, the same headers and the same body, or no answer in both.  If the
request is not for a segment that is served late, the answers are the same altogether, with every
time in them. -/
theorem delayMode_changes_only_timing (config : Config) (files : FileSystem)
    (requests : List Request) :
    let sleeping := ((start (config.delaying .sleep) files).run requests).1
    let throttled := ((start (config.delaying .throttle) files).run requests).1
    sleeping.length = requests.length ∧ throttled.length = requests.length ∧
      ∀ (i : Nat) (r : Request) (a b : Option Answer),
        requests[i]? = some r → sleeping[i]? = some a → throttled[i]? = some b →
        Option.Rel Answer.SameContent a b ∧ ((∀ secs, ¬ HeldBack config r secs) → a = b) := by
  intro sleeping throttled
  have hsleeping : sleeping = requests.map (answerTo (start (config.delaying .sleep) files)) :=
    (serves_start _ files).fst_run requests
  have hthrottled : throttled =
      requests.map (answerTo (start (config.delaying .throttle) files)) :=
    (serves_start _ files).fst_run requests
  refine ⟨by rw [hsleeping, List.length_map], by rw [hthrottled, List.length_map], ?_⟩
  intro i r a b hr ha hb
  rw [hsleeping, List.getElem?_map, hr] at ha
  rw [hthrottled, List.getElem?_map, hr] at hb
  obtain rfl := Option.some.inj ha
  obtain rfl := Option.some.inj hb
  constructor
  · refine answerTo_delaying config _ _ files rel_sameContent_refl fun stem t _ _ _ => .some ?_
    exact Reply.sameContent_of_untimed_eq (untimed_segmentReply_delaying config _ _ files t)
  · intro hheld
    refine answerTo_delaying config _ _ files (fun _ => rfl) fun stem t hread hkind hresult => ?_
    have ht : ∀ secs, t ≠ .delayed secs := by
      rintro secs rfl
      exact hheld secs ⟨hread, stem, hkind, hresult⟩
    rw [segmentReply_delaying config .sleep .throttle files ht]

/-- A late segment and the one before it, which is not late. -/
theorem delayMode_changes_only_timing_of_two :
    let files := FileSystem.beside [("0.ts", .file ⟨#[71]⟩)]
    let late := Request.ofUri "GET" "/p5-r10/1.ts"
    let prompt := Request.ofUri "GET" "/p5-r10/0.ts"
    let sleeping := ((start (({} : Config).delaying .sleep) files).run [late, prompt]).1
    let throttled := ((start (({} : Config).delaying .throttle) files).run [late, prompt]).1
    (∀ secs, ¬ HeldBack {} prompt secs) ∧
      ∃ a a' b b', sleeping = [some a, some b] ∧ throttled = [some a', some b'] ∧
        a.SameContent a' ∧ a.headTime = 10000 ∧ a'.headTime = 0 ∧ b = b' := by
  have hprompt : ∀ secs, ¬ HeldBack {} (Request.ofUri "GET" "/p5-r10/0.ts") secs := by
    rintro secs ⟨-, stem, hkind, hresult⟩
    have hzero : (Target.ofPath (Request.ofUri "GET" "/p5-r10/0.ts").path
      ({} : Config).scenario.ignore).kind = .segment "0" := by decide
    obtain rfl : "0" = stem := Target.Kind.segment.inj (hzero.symm.trans hkind)
    exact absurd hresult nofun
  have h := (delayMode_changes_only_timing {} (FileSystem.beside [("0.ts", .file ⟨#[71]⟩)])
    [Request.ofUri "GET" "/p5-r10/1.ts", Request.ofUri "GET" "/p5-r10/0.ts"]).2.2
  obtain ⟨hcontent⟩ := (h 0 _ _ _ rfl rfl rfl).1
  exact ⟨hprompt, _, _, _, _, rfl, rfl, hcontent, by decide, rfl,
    Option.some.inj ((h 1 _ _ _ rfl rfl rfl).2 hprompt)⟩

end Server

end StreamRehearsal
