import StreamRehearsal.Proofs.Server.History
import StreamRehearsal.Proofs.Storage.Paths

/-! # The headers of an answer

Answers come from many places: playlists, files, failures that are simulated and failures that are
not, methods that are turned down.  All but one kind go through `Reply.answer`, and so they carry
the name of the server.  A preflight is answered before any reply is decided on, and does not.

* `Answer.Orderly` says that the headers of an answer are in the order of their names and that no
  name is there twice.  `Server.orderly_answerTo` says it of every answer.
* `Reply.header?_server_answer` is about every reply, and `Server.header?_server_answerTo` says
  which answers carry the name of the server.
* `Server.header?_server_iff` is the outcome in every state that a server can be in. -/

namespace StreamRehearsal

namespace Answer

/-- The headers are in the order of their names, each of which is there once. -/
def Orderly (a : Answer) : Prop := (a.headers.map Prod.fst).Pairwise (· < ·)

/-- Of a header that is there once, no other value can be found. -/
theorem Orderly.header?_eq_some {a : Answer} (h : a.Orderly) {name value : String}
    (hmem : (name, value) ∈ a.headers) : a.header? name = some value := by
  obtain ⟨status, headers, headTime, frames⟩ := a
  unfold Orderly at h
  unfold header?
  induction headers with
  | nil => exact absurd hmem List.not_mem_nil
  | cons first rest ih =>
      rw [List.map_cons, List.pairwise_cons] at h
      rcases List.mem_cons.1 hmem with rfl | hrest
      · simp
      · have hlt : first.1 < name := h.1 name (List.mem_map_of_mem hrest)
        have hne : first.1 ≠ name := fun e => String.lt_irrefl name (e ▸ hlt)
        rw [List.find?_cons_of_neg (by simpa using hne)]
        exact ih h.2 hrest

theorem orderly_preflight (listsMethods : Bool) : (preflight listsMethods).Orderly := by
  unfold Orderly
  cases listsMethods <;> decide

theorem header?_server_preflight (listsMethods : Bool) :
    (preflight listsMethods).header? "server" = none := by
  cases listsMethods <;> decide

end Answer

namespace Content

/-- The names of the headers about a content. -/
theorem names_headers (c : Content) :
    c.headers.map Prod.fst = ["content-length"] ∨
      c.headers.map Prod.fst = ["cache-control", "content-length", "content-type"] := by
  cases c with
  | nothing => exact .inl rfl
  | playlist text => exact .inr rfl
  | file path bytes pause => exact .inr rfl

end Content

namespace Reply

theorem names_headers_answer (r : Reply) :
    r.answer.headers.map Prod.fst =
      "access-control-allow-origin" :: (Answer.allowHeader r.listsMethods).map Prod.fst ++
        r.content.headers.map Prod.fst ++ ["server"] := by
  simp [answer]

theorem orderly_answer (r : Reply) : r.answer.Orderly := by
  have hnames := r.names_headers_answer
  unfold Answer.Orderly
  rcases r.content.names_headers with h | h
  · rw [hnames, h]
    cases r.listsMethods <;> decide
  · rw [hnames, h]
    cases r.listsMethods <;> decide

/-- Every reply leads to an answer with the name of the server. -/
theorem header?_server_answer (r : Reply) : r.answer.header? "server" = some "hlsfixture" := by
  apply r.orderly_answer.header?_eq_some
  show _ ∈ _ ++ [("server", "hlsfixture")]
  exact List.mem_append_right _ (List.mem_singleton_self _)

end Reply

namespace Server

variable {s : Server} {r : Request} {answer : Answer}

theorem orderly_answerTo (h : s.answerTo r = some answer) : answer.Orderly := by
  obtain ⟨-, rfl⟩ | ⟨-, reply, rfl, -⟩ := answerTo_cases h
  · exact Answer.orderly_preflight _
  · exact reply.orderly_answer

theorem header?_server_answerTo (h : s.answerTo r = some answer) :
    answer.header? "server" = if r.method = "OPTIONS" then none else some "hlsfixture" := by
  obtain ⟨hmethod, rfl⟩ | ⟨hmethod, reply, rfl, -⟩ := answerTo_cases h
  · rw [if_pos hmethod, Answer.header?_server_preflight]
  · rw [if_neg hmethod, reply.header?_server_answer]

/-- **Which answers carry the name of the server.**  Whatever was asked before, an answer names the
server, and names it once, if and only if the method of the request is not `OPTIONS`; the answer to
a preflight does not name any.  Only a request for a playlist that is too large has no answer. -/
theorem header?_server_iff (config : Config) (files : FileSystem) (history : List Request)
    (r : Request) :
    let answer? := (((start config files).run history).2.step r).1
    (answer? = none ↔ Overflows config r) ∧
      ∀ answer, answer? = some answer →
        answer.Orderly ∧
          (answer.header? "server" = some "hlsfixture" ↔ r.method ≠ "OPTIONS") ∧
          (answer.header? "server" = none ↔ r.method = "OPTIONS") := by
  intro answer?
  have hanswer : answer? = (start config files).answerTo r :=
    ((serves_start config files).run history).fst_step r
  rw [hanswer]
  refine ⟨answerTo_eq_none_iff, fun answer h => ⟨orderly_answerTo h, ?_⟩⟩
  rw [header?_server_answerTo h]
  constructor
  · split
    next hmethod => exact ⟨nofun, fun hne => absurd hmethod hne⟩
    next hmethod => exact ⟨fun _ => hmethod, fun _ => rfl⟩
  · split
    next hmethod => exact ⟨fun _ => hmethod, fun _ => rfl⟩
    next hmethod => exact ⟨nofun, fun e => absurd e hmethod⟩

/-- A browser that asks what it may ask for is not told the name of the server. -/
theorem not_named_in_preflight :
    let answer? := ((start {} (FileSystem.beside [])).step (Request.ofUri "OPTIONS" "/p5/0.ts")).1
    answer?.map Answer.status = some 200 ∧
      answer?.map (Answer.header? · "server") = some none := by
  decide

end Server

end StreamRehearsal
