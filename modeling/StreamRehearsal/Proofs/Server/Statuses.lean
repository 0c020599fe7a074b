import StreamRehearsal.Proofs.Scenario.Spelling
import StreamRehearsal.Proofs.Server.Segment
import StreamRehearsal.Proofs.Timeline.Shape

/-! # Status codes

A status code is written in a scenario string, kept in the timeline of the scenario, and sent when
its segment is asked for.  Two rules act on it on the way: what is read has three digits, and what is
sent must be able to end an answer, which informational codes cannot.

* `Scenario.code_bounds_of_mem` is the first rule, for every action of a compiled timeline.
* `Server.isFinal_answerTo` is the second, for every answer that the server can give, and
  `Server.status_answerTo_of_code` is what the two make of a simulated failure.
* `every_action_counts` puts these together with the content of timelines. -/

namespace StreamRehearsal

/-! ### Codes in timelines -/

namespace Scenario

theorem code_bounds_of_mem {path : String} {a : SegmentAction}
    (ha : a ∈ (compile path).timeline.actions) {code : UInt16} (hcode : a.code = some code) :
    100 ≤ code.toNat ∧ code.toNat ≤ 999 := by
  have hmeaning := Timeline.meaningful_ofOperations (Token.operations path) a ha
  exact Token.code_bounds_of_mem_operations (hmeaning.code_mem code hcode)

theorem code_bounds_of_resolveSegment {path stem : String} {t : Treatment}
    (h : (compile path).resolveSegment stem = .ok t) {code : UInt16} (hcode : t.code? = some code) :
    100 ≤ code.toNat ∧ code.toNat ≤ 999 := by
  unfold resolveSegment Timeline.resolveName at h
  split at h
  next index _ =>
    rw [Timeline.resolve_eq_lookup, Except.ok.injEq] at h
    rw [← h, Timeline.code?_lookup] at hcode
    obtain ⟨a, hget, hcode⟩ := Option.bind_eq_some_iff.1 hcode
    exact code_bounds_of_mem (List.mem_of_find?_eq_some hget) hcode
  next => exact absurd h nofun

end Scenario

/-! ### Codes in answers -/

/-- The status can end an answer: it is none of the informational ones. -/
def IsFinal (status : UInt16) : Prop := 200 ≤ status.toNat ∧ status.toNat ≤ 999

instance (status : UInt16) : Decidable (IsFinal status) :=
  inferInstanceAs (Decidable (_ ∧ _))

namespace Server

variable {s : Server}

theorem isFinal_failureReply (code : UInt16) : IsFinal (failureReply code).status := by
  show IsFinal (if 200 ≤ code.toNat ∧ code.toNat ≤ 999 then code else 500)
  split
  next h => exact h
  next => decide

theorem isFinal_failure (f : Failure) : IsFinal f.status := by
  cases f with
  | invalidSegment request => exact (by decide : IsFinal 400)
  | notFound path => exact (by decide : IsFinal 404)
  | stubUnavailable path cause => exact (by decide : IsFinal 500)
  | storage cause => exact (by decide : IsFinal 500)

theorem isFinal_fileReply (path : String) (delay : Option UInt64) (node : Node) :
    IsFinal (settle (fileReply path delay node)).status := by
  cases node with
  | file bytes => exact (by decide : IsFinal 200)
  | directory entries => exact isFinal_failure (.notFound path)

theorem isFinal_serveStatic (name : String) : IsFinal (settle (s.serveStatic name)).status := by
  unfold serveStatic
  dsimp only
  cases s.files.find (s.config.media.pathOf name) with
  | ok node => exact isFinal_fileReply _ none node
  | error fault => cases fault <;> exact isFinal_failure _

theorem isFinal_serveStub (delay : Option UInt64) :
    IsFinal (settle (s.serveStub delay)).status := by
  unfold serveStub
  dsimp only
  cases s.files.find s.config.media.stubPath with
  | ok node => exact isFinal_fileReply _ delay node
  | error fault => exact isFinal_failure _

theorem isFinal_topPlaylist : IsFinal (settle s.topPlaylist).status := by
  unfold topPlaylist
  split
  · exact (by decide : IsFinal 200)
  · exact isFinal_serveStatic mediaName

theorem isFinal_segmentReply (t : Treatment) : IsFinal (s.segmentReply t).status := by
  cases hcode : t.code? with
  | some code =>
      rw [segmentReply_of_code hcode]
      exact isFinal_failureReply code
  | none =>
      rw [segmentReply_of_served hcode]
      exact isFinal_serveStub _

theorem isFinal_healthReply (method : String) : IsFinal (healthReply method).status := by
  unfold healthReply
  split
  · exact (by decide : IsFinal 200)
  · exact (by decide : IsFinal 405)

theorem isFinal_replyTo {target : Target} {reply : Reply} (h : s.replyTo target = some reply) :
    IsFinal reply.status := by
  obtain ⟨-, rfl⟩ | ⟨-, rfl⟩ | ⟨-, text, -, rfl⟩ | ⟨stem, -, rfl⟩ | ⟨name, -, rfl⟩ :=
    replyTo_cases h
  · exact (by decide : IsFinal 204)
  · exact isFinal_topPlaylist
  · exact (by decide : IsFinal 200)
  · cases (Scenario.compile target.scenario).resolveSegment stem with
    | error request => exact isFinal_failure (.invalidSegment request)
    | ok t => exact isFinal_segmentReply t
  · exact isFinal_serveStatic name

/-- Every answer ends what was asked for. -/
theorem isFinal_answerTo {r : Request} {answer : Answer} (h : s.answerTo r = some answer) :
    IsFinal answer.status := by
  obtain ⟨-, rfl⟩ | ⟨-, reply, rfl, hreply⟩ := answerTo_cases h
  · exact (by decide : IsFinal 200)
  obtain rfl | rfl | ⟨-, hreply⟩ := hreply
  · exact isFinal_healthReply r.method
  · exact (by decide : IsFinal 405)
  · exact isFinal_replyTo hreply

/-- A code with three digits is sent as it is, unless it is informational. -/
theorem status_failureReply_of_le {code : UInt16} (h : code.toNat ≤ 999) :
    (failureReply code).status = if 200 ≤ code.toNat then code else 500 := by
  show (if 200 ≤ code.toNat ∧ code.toNat ≤ 999 then code else 500) = _
  simp only [h, and_true]

theorem status_answerTo_of_code {r : Request} {stem : String} {t : Treatment} {code : UInt16}
    (hread : isReading r.method = true)
    (hkind : (Target.ofPath r.path s.config.scenario.ignore).kind = .segment stem)
    (hresult : (Scenario.compile
      (Target.ofPath r.path s.config.scenario.ignore).scenario).resolveSegment stem = .ok t)
    (hcode : t.code? = some code) :
    ∃ answer, s.answerTo r = some answer ∧
      answer.status = if 200 ≤ code.toNat then code else 500 := by
  have hbounds := Scenario.code_bounds_of_resolveSegment hresult hcode
  refine ⟨_, answerTo_segment hread hkind hresult, ?_⟩
  show (s.segmentReply t).status = _
  rw [segmentReply_of_code hcode, Reply.status_after, status_failureReply_of_le hbounds.2]

end Server

/-! ### From the operations to the answers -/

/-- **Every action counts.**  Whatever the operations are, each action of their timeline delays or
fails its segment, for one second at least and with a code of theirs, and the segments that have an
action are those that are not under normal service.  A code of a scenario string has three digits;
the server sends it as it is unless it is informational, and 500 in its place if it is, so that no
answer at all has an informational status. -/
theorem every_action_counts (ops : List Operation) (path : String) (config : Config)
    (files : FileSystem) (history : List Request) (r : Request) :
    let timeline := Timeline.ofOperations ops
    let target := Target.ofPath r.path config.scenario.ignore
    let answer? := (((Server.start config files).run history).2.step r).1
    (∀ a ∈ timeline.actions, a.Meaningful ops) ∧
      (∀ (length : SegmentLength) (index : UInt64),
        ((∃ a ∈ timeline.actions, a.index = index) ↔ timeline.resolve index length ≠ .normal) ∧
          (timeline.resolve index length).delay? ≠ some 0) ∧
      (∀ a ∈ (Scenario.compile path).timeline.actions, ∀ code, a.code = some code →
        100 ≤ code.toNat ∧ code.toNat ≤ 999) ∧
      (∀ answer, answer? = some answer → IsFinal answer.status) ∧
      (Server.isReading r.method = true → ∀ stem t code, target.kind = .segment stem →
        (Scenario.compile target.scenario).resolveSegment stem = .ok t → t.code? = some code →
        ∃ answer, answer? = some answer ∧
          answer.status = if 200 ≤ code.toNat then code else 500) := by
  intro timeline target answer?
  have hanswer : answer? = (Server.start config files).answerTo r :=
    ((Server.serves_start config files).run history).fst_step r
  rw [hanswer]
  refine ⟨Timeline.meaningful_ofOperations ops, fun length index => ?_, fun a ha code hcode => ?_,
    fun answer => Server.isFinal_answerTo, fun hread stem t code hkind hresult hcode => ?_⟩
  · exact ⟨Timeline.exists_action_iff ops length index,
      Timeline.delay?_resolve_ofOperations_ne_zero ops length index⟩
  · exact Scenario.code_bounds_of_mem ha hcode
  · exact Server.status_answerTo_of_code hread hkind hresult hcode

/-- A stall and an informational failure on one segment: the code stays in the timeline, and 500 is
sent in its place. -/
theorem every_action_counts_of_informational :
    let ops : List Operation := [.rebuffer 5, .failure 150]
    let action : SegmentAction := ⟨0, some 5, some 150⟩
    let r := Request.ofUri "GET" "/r5-e150/0.ts"
    action ∈ (Timeline.ofOperations ops).actions ∧ action.Meaningful ops ∧
      action ∈ (Scenario.compile "/r5-e150").timeline.actions ∧
      100 ≤ (150 : UInt16).toNat ∧
      ∃ answer, (((Server.start {} (FileSystem.beside [])).run
          [Request.ofUri "GET" "/e150/0.ts"]).2.step r).1 = some answer ∧
        answer.status = 500 := by
  intro ops action r
  have haction : action ∈ (Timeline.ofOperations ops).actions := by decide
  have hcompiled : action ∈ (Scenario.compile "/r5-e150").timeline.actions := by decide
  have hkind : (Target.ofPath r.path ({} : Config).scenario.ignore).kind = .segment "0" := by
    decide
  have hresult : (Scenario.compile (Target.ofPath r.path ({} : Config).scenario.ignore).scenario
      ).resolveSegment "0" = .ok (.delayedFailure 5 150) := by
    decide
  obtain ⟨hmeaning, -, hbounds, -, hstatus⟩ :=
    every_action_counts ops "/r5-e150" {} (FileSystem.beside [])
      [Request.ofUri "GET" "/e150/0.ts"] r
  obtain ⟨answer, hanswer, hcode⟩ := hstatus (by decide) "0" _ 150 hkind hresult rfl
  exact ⟨haction, hmeaning action haction, hcompiled, (hbounds action hcompiled 150 rfl).1,
    answer, hanswer, hcode.trans (by decide)⟩

end StreamRehearsal
