import StreamRehearsal.Proofs.Playlist.Capacity

/-! # The history does not show

A server remembers compiled scenarios from one request to the next.  Nobody can tell: what is
remembered for a scenario string is what compiling it again would give.

* `Store.Sound` is the invariant of the store.  It does not depend on which entries are kept, so
  neither the capacity nor the times of the requests matter.
* `Server.replyTo` and `Server.answerTo` are the reply and the answer of a server that remembers
  nothing, and `replyTo_cases` and `answerTo_cases` say where these come from.  `fst_handle` and
  `fst_step` say that every server whose store is sound gives them.
* `Server.Overflows` says which requests are not answered: those for a rendition playlist that there
  is no room for (`answerTo_eq_none_iff`).
* `Server.Serves config files s` says what a server keeps from one request to the next: its
  settings, its files and the soundness of its store.
* `run_eq_map_fresh` is the outcome for a whole run. -/

namespace StreamRehearsal

/-- The same settings with another number of scenarios to keep. -/
def Config.keeping (c : Config) (entries : UInt64) : Config :=
  { c with scenario := { c.scenario with cacheEntries := entries } }

namespace Store

/-- Every object is the compilation of the scenario string that it is kept for. -/
def Sound (s : Store) : Prop := ∀ e ∈ s.entries, e.object.scenario = Scenario.compile e.path

theorem sound_ofCapacity (capacity : Nat) : (ofCapacity capacity).Sound := by
  intro e he
  exact absurd he List.not_mem_nil

theorem Sound.scenario_obtain {s : Store} (h : s.Sound) (path : String) :
    (s.obtain path).scenario = Scenario.compile path := by
  by_cases hk : path ∈ s.keys
  · obtain ⟨e, he, rfl, hfind⟩ := exists_entry_of_mem hk
    rw [obtain, hfind, Option.getD_some, h e he]
  · rw [obtain_of_notMem hk]

/-- A request keeps the store sound, whatever it adds or drops. -/
theorem Sound.get {s : Store} (h : s.Sound) (time : Nat) (path : String) :
    (s.get time path).2.Sound := by
  intro e he
  rw [entries_get] at he
  obtain ⟨old, hold, hpath, hobject⟩ | ⟨-, rfl⟩ := of_mem_entriesAfter he
  · rw [← hpath, ← hobject, h old hold]
  · exact h.scenario_obtain path

end Store

namespace Server

/-! ### Answers without a memory -/

/-- The reply to a request for a target by a server that remembers nothing. -/
def replyTo (s : Server) (target : Target) : Option Reply :=
  match target.kind with
  | .ignored => some (Reply.bare 204)
  | .mediaPlaylist => some (settle s.topPlaylist)
  | .renditionPlaylist =>
    (renditionText? (Scenario.compile target.scenario)).map Reply.playlist
  | .segment stem =>
    some (s.resolvedReply ((Scenario.compile target.scenario).resolveSegment stem))
  | .static name => some (settle (s.serveStatic name))

/-- The answer to a request by a server that remembers nothing. -/
def answerTo (s : Server) (r : Request) : Option Answer :=
  if r.method = "OPTIONS" then some (Answer.preflight (r.path = healthPath))
  else if r.path = healthPath then some (healthReply r.method).answer
  else if isReading r.method then
    (s.replyTo (Target.ofPath r.path s.config.scenario.ignore)).map Reply.answer
  else some (Reply.bare 405).answer

theorem ne_options_of_isReading {method : String} (h : isReading method = true) :
    method ≠ "OPTIONS" := by
  rintro rfl
  exact absurd h (by decide)

/-- The path for the server's health is that of an ordinary file. -/
theorem kind_ofPath_healthPath (ignore : List String) :
    (Target.ofPath healthPath ignore).kind = .ignored ∨
      (Target.ofPath healthPath ignore).kind = .static "health" := by
  have hsplit : Target.split healthPath = ("/", "health") := by decide
  have hstem : Target.stem? "health".toList = none := by decide
  have hmedia : "health" ≠ mediaName := by decide
  have hrendition : "health" ≠ renditionName := by decide
  simp only [Target.ofPath, hsplit, Target.Kind.ofName, hstem, if_neg hmedia, if_neg hrendition]
  split
  · exact .inl rfl
  · exact .inr rfl

/-- A path with a target of another kind is not the one for the server's health. -/
theorem ne_healthPath_of_kind {path : String} {ignore : List String} {kind : Target.Kind}
    (hkind : (Target.ofPath path ignore).kind = kind) (hignored : kind ≠ .ignored)
    (hstatic : kind ≠ .static "health") : path ≠ healthPath := by
  rintro rfl
  subst hkind
  exact (kind_ofPath_healthPath ignore).elim hignored hstatic

/-- What is neither a preflight nor a question after the server's health is answered by a handler. -/
theorem answerTo_of_isReading (s : Server) {r : Request} (hread : isReading r.method = true)
    (hpath : r.path ≠ healthPath) :
    s.answerTo r =
      (s.replyTo (Target.ofPath r.path s.config.scenario.ignore)).map Reply.answer := by
  rw [answerTo, if_neg (ne_options_of_isReading hread), if_neg hpath, if_pos hread]

/-- Where answers come from: from the preflight, or from a reply to something else. -/
theorem answerTo_cases {s : Server} {r : Request} {answer : Answer}
    (h : s.answerTo r = some answer) :
    (r.method = "OPTIONS" ∧ answer = Answer.preflight (r.path = healthPath)) ∨
      r.method ≠ "OPTIONS" ∧ ∃ reply : Reply, answer = reply.answer ∧
        (reply = healthReply r.method ∨ reply = Reply.bare 405 ∨
          isReading r.method = true ∧
            s.replyTo (Target.ofPath r.path s.config.scenario.ignore) = some reply) := by
  unfold answerTo at h
  split at h
  next hmethod => exact .inl ⟨hmethod, (Option.some.inj h).symm⟩
  next hmethod =>
  refine .inr ⟨hmethod, ?_⟩
  split at h
  · exact ⟨_, (Option.some.inj h).symm, .inl rfl⟩
  split at h
  next hread =>
    obtain ⟨reply, hreply, rfl⟩ := Option.map_eq_some_iff.1 h
    exact ⟨reply, rfl, .inr (.inr ⟨hread, hreply⟩)⟩
  next => exact ⟨_, (Option.some.inj h).symm, .inr (.inl rfl)⟩

/-- Where replies come from, one case for each kind of target. -/
theorem replyTo_cases {s : Server} {target : Target} {reply : Reply}
    (h : s.replyTo target = some reply) :
    (target.kind = .ignored ∧ reply = Reply.bare 204) ∨
      (target.kind = .mediaPlaylist ∧ reply = settle s.topPlaylist) ∨
      (target.kind = .renditionPlaylist ∧ ∃ text,
        renditionText? (Scenario.compile target.scenario) = some text ∧
          reply = Reply.playlist text) ∨
      (∃ stem, target.kind = .segment stem ∧
        reply = s.resolvedReply ((Scenario.compile target.scenario).resolveSegment stem)) ∨
      ∃ name, target.kind = .static name ∧ reply = settle (s.serveStatic name) := by
  unfold replyTo at h
  split at h
  next hkind => exact .inl ⟨hkind, (Option.some.inj h).symm⟩
  next hkind => exact .inr (.inl ⟨hkind, (Option.some.inj h).symm⟩)
  next hkind =>
    obtain ⟨text, htext, rfl⟩ := Option.map_eq_some_iff.1 h
    exact .inr (.inr (.inl ⟨hkind, text, htext, rfl⟩))
  next stem hkind =>
    exact .inr (.inr (.inr (.inl ⟨stem, hkind, (Option.some.inj h).symm⟩)))
  next name hkind =>
    exact .inr (.inr (.inr (.inr ⟨name, hkind, (Option.some.inj h).symm⟩)))

/-- The number of scenarios to keep and what is kept do not matter. -/
theorem answerTo_keeping (config : Config) (entries : UInt64) (files : FileSystem)
    (store store' : Store) (r : Request) :
    answerTo ⟨config.keeping entries, files, store⟩ r = answerTo ⟨config, files, store'⟩ r :=
  rfl

theorem fst_scenario {s : Server} (h : s.store.Sound) (time : Nat) (path : String) :
    (s.scenario time path).1 = Scenario.compile path :=
  h.scenario_obtain path

theorem fst_handle {s : Server} (h : s.store.Sound) (time : Nat) (target : Target) :
    (s.handle time target).1 = s.replyTo target := by
  have hscenario := fst_scenario h time target.scenario
  unfold handle replyTo
  cases target.kind with
  | ignored => rfl
  | mediaPlaylist => rfl
  | renditionPlaylist => exact hscenario ▸ rfl
  | segment stem => exact hscenario ▸ rfl
  | static name => rfl

theorem fst_step {s : Server} (h : s.store.Sound) (r : Request) : (s.step r).1 = s.answerTo r := by
  unfold step answerTo
  split
  · rfl
  split
  · rfl
  split
  · exact congrArg (Option.map Reply.answer) (fst_handle h r.time _)
  · rfl

/-! ### Requests without an answer -/

/-- The request is for a rendition playlist that there is no room for. -/
def Overflows (config : Config) (r : Request) : Prop :=
  let target := Target.ofPath r.path config.scenario.ignore
  isReading r.method = true ∧ target.kind = .renditionPlaylist ∧
    ¬ (Scenario.compile target.scenario).listing.Fits

theorem replyTo_eq_none_iff {s : Server} {target : Target} :
    s.replyTo target = none ↔
      target.kind = .renditionPlaylist ∧ ¬ (Scenario.compile target.scenario).listing.Fits := by
  unfold replyTo
  cases target.kind with
  | ignored => simp
  | mediaPlaylist => simp
  | renditionPlaylist => simp [renditionText?_eq_none_iff]
  | segment stem => simp
  | static name => simp

/-- **Which requests are not answered.**  All others are. -/
theorem answerTo_eq_none_iff {s : Server} {r : Request} :
    s.answerTo r = none ↔ Overflows s.config r := by
  constructor
  · intro h
    unfold answerTo at h
    split at h
    · exact absurd h nofun
    split at h
    · exact absurd h nofun
    split at h
    next hread => exact ⟨hread, replyTo_eq_none_iff.1 (Option.map_eq_none_iff.1 h)⟩
    next => exact absurd h nofun
  · rintro ⟨hread, hoverflow⟩
    have hpath : r.path ≠ healthPath := ne_healthPath_of_kind hoverflow.1 nofun nofun
    rw [s.answerTo_of_isReading hread hpath, replyTo_eq_none_iff.2 hoverflow]
    rfl

/-! ### What a server keeps -/

/-- The server has these settings and these files, and its store is sound. -/
structure Serves (config : Config) (files : FileSystem) (s : Server) : Prop where
  config_eq : s.config = config
  files_eq : s.files = files
  sound : s.store.Sound

variable {config : Config} {files : FileSystem} {s : Server}

theorem serves_start (config : Config) (files : FileSystem) :
    Serves config files (start config files) :=
  ⟨rfl, rfl, Store.sound_ofCapacity _⟩

theorem Serves.scenario (h : Serves config files s) (time : Nat) (path : String) :
    Serves config files (s.scenario time path).2 :=
  ⟨h.config_eq, h.files_eq, h.sound.get time path⟩

theorem Serves.handle (h : Serves config files s) (time : Nat) (target : Target) :
    Serves config files (s.handle time target).2 := by
  unfold Server.handle
  cases target.kind with
  | ignored => exact h
  | mediaPlaylist => exact h
  | renditionPlaylist => exact h.scenario time target.scenario
  | segment stem => exact h.scenario time target.scenario
  | static name => exact h

theorem Serves.step (h : Serves config files s) (r : Request) :
    Serves config files (s.step r).2 := by
  unfold Server.step
  split
  · exact h
  split
  · exact h
  split
  · exact h.handle r.time _
  · exact h

theorem Serves.run (h : Serves config files s) (rs : List Request) :
    Serves config files (s.run rs).2 := by
  induction rs generalizing s with
  | nil => exact h
  | cons r rs ih => exact ih (h.step r)

theorem Serves.answerTo_eq (h : Serves config files s) (r : Request) :
    s.answerTo r = answerTo (start config files) r := by
  obtain ⟨rfl, rfl, -⟩ := h
  rfl

theorem Serves.fst_step (h : Serves config files s) (r : Request) :
    (s.step r).1 = answerTo (start config files) r :=
  (Server.fst_step h.sound r).trans (h.answerTo_eq r)

theorem Serves.fst_run (h : Serves config files s) (rs : List Request) :
    (s.run rs).1 = rs.map (answerTo (start config files)) := by
  induction rs generalizing s with
  | nil => rfl
  | cons r rs ih =>
      rw [List.map_cons, ← h.fst_step r, ← ih (h.step r)]
      rfl

/-- The server after looking up scenario strings one after the other. -/
def lookUp (s : Server) (calls : List Store.Call) : Server :=
  calls.foldl (fun s c => (s.scenario c.time c.path).2) s

theorem Serves.lookUp (h : Serves config files s) (calls : List Store.Call) :
    Serves config files (s.lookUp calls) := by
  induction calls generalizing s with
  | nil => exact h
  | cons c calls ih => exact ih (h.scenario c.time c.path)

/-! ### Whole runs -/

/-- **The store and the history are invisible.**  In any run, each request gets the answer, or none,
that it gets from a server that has just been started and is asked nothing else; another number of
scenarios to keep changes no answer; and after any requests and any look-ups, the scenario for a
scenario string is its compilation. -/
theorem run_eq_map_fresh (config : Config) (files : FileSystem) (requests : List Request)
    (entries : UInt64) :
    ((start config files).run requests).1 =
        requests.map (fun r => ((start config files).step r).1) ∧
      ((start (config.keeping entries) files).run requests).1 =
        ((start config files).run requests).1 ∧
      ∀ (calls : List Store.Call) (time : Nat) (path : String),
        ((((start config files).run requests).2.lookUp calls).scenario time path).1 =
          Scenario.compile path := by
  have h := serves_start config files
  have hkeeping := serves_start (config.keeping entries) files
  have hfresh : (fun r => ((start config files).step r).1) = answerTo (start config files) :=
    funext h.fst_step
  refine ⟨?_, ?_, fun calls time path => ?_⟩
  · rw [hfresh, h.fst_run]
  · rw [h.fst_run, hkeeping.fst_run]
    exact List.map_congr_left fun r _ => answerTo_keeping config entries files _ _ r
  · exact fst_scenario ((h.run requests).lookUp calls).sound time path

end Server

end StreamRehearsal
