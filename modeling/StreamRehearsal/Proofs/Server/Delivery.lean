import StreamRehearsal.Server.Reply

/-! # What a client gets

A client sees an answer as a head at some time and a body in frames.

* `Reply.body_answer` says that the frames are the content, whole and in order, however it is cut.
* `Answer.IsEmpty`, `Answer.Delivers` and `Answer.Immediate` are the three things that can be said
  of an answer to a segment request: it has no body, it brings a file, or nothing in it is waited
  for.  Each is proved of the replies that lead to it. -/

namespace StreamRehearsal

namespace Content

/-- The bytes of a content. -/
def bytes : Content → ByteArray
  | nothing => .empty
  | playlist text => text.toUTF8
  | file _ bytes _ => bytes

/-- The milliseconds before each piece of a content. -/
def pause : Content → Nat
  | nothing => 0
  | playlist _ => 0
  | file _ _ pause => pause

theorem map_bytes_frames_file (start : Nat) (path : String) (bytes : ByteArray) (pause : Nat) :
    ((file path bytes pause).frames start).map Frame.bytes = Pacing.pieces bytes := by
  refine List.ext_getElem? fun i => ?_
  simp [frames, Function.comp_def]

/-- Without pauses everything is sent at the start. -/
theorem time_of_mem_frames {c : Content} (h : c.pause = 0) {start : Nat} {f : Frame}
    (hf : f ∈ c.frames start) : f.time = start := by
  cases c with
  | nothing => exact absurd hf List.not_mem_nil
  | playlist text => exact congrArg Frame.time (List.mem_singleton.1 hf)
  | file path bytes pause =>
      obtain ⟨i, hi, rfl⟩ := List.mem_mapIdx.1 hf
      obtain rfl : pause = 0 := h
      simp

end Content

namespace Reply

/-- **Nothing of a content is lost, doubled or put out of order.** -/
theorem body_answer (r : Reply) : r.answer.body = r.content.bytes := by
  obtain ⟨status, wait, content, listsMethods⟩ := r
  have hbody : ∀ frames : List Frame,
      frames.foldl (fun body frame => body ++ frame.bytes) .empty =
        (frames.map Frame.bytes).foldl (· ++ ·) .empty := fun frames => List.foldl_map.symm
  cases content with
  | nothing => rfl
  | playlist text => exact ByteArray.empty_append
  | file path bytes pause =>
      show (Content.frames wait (.file path bytes pause)).foldl _ _ = bytes
      rw [hbody, Content.map_bytes_frames_file, Pacing.foldl_pieces]

end Reply

namespace Answer

/-- The answer has this status and no body, and is sent at this time. -/
structure IsEmpty (a : Answer) (status : UInt16) (time : Nat) : Prop where
  status_eq : a.status = status
  headTime_eq : a.headTime = time
  frames_eq : a.frames = []

/-- The answer brings these bytes, and its head is sent at this time. -/
structure Delivers (a : Answer) (bytes : ByteArray) (time : Nat) : Prop where
  status_eq : a.status = 200
  headTime_eq : a.headTime = time
  body_eq : a.body = bytes

/-- The head and every frame are sent at the start. -/
structure Immediate (a : Answer) : Prop where
  headTime_eq : a.headTime = 0
  time_eq : ∀ f ∈ a.frames, f.time = 0

theorem immediate_preflight (listsMethods : Bool) : (preflight listsMethods).Immediate :=
  ⟨rfl, fun _ hf => absurd hf List.not_mem_nil⟩

end Answer

namespace Reply

theorem isEmpty_answer_bare (status : UInt16) (millis : Nat) :
    ((bare status).after millis).answer.IsEmpty status millis :=
  ⟨rfl, rfl, rfl⟩

theorem delivers_answer_file (path : String) (bytes : ByteArray) (pause millis : Nat) :
    ((file path bytes pause).after millis).answer.Delivers bytes millis :=
  ⟨rfl, rfl, body_answer _⟩

/-- The reply waits for nothing, neither before it is sent nor on the way. -/
structure Prompt (r : Reply) : Prop where
  wait_eq : r.wait = 0
  pause_eq : r.content.pause = 0

theorem prompt_bare (status : UInt16) : (bare status).Prompt := ⟨rfl, rfl⟩

theorem prompt_playlist (text : String) : (playlist text).Prompt := ⟨rfl, rfl⟩

theorem prompt_file (path : String) (bytes : ByteArray) : (file path bytes 0).Prompt := ⟨rfl, rfl⟩

theorem Prompt.immediate {r : Reply} (h : r.Prompt) : r.answer.Immediate where
  headTime_eq := h.wait_eq
  time_eq _ hf := (Content.time_of_mem_frames h.pause_eq hf).trans h.wait_eq

end Reply

end StreamRehearsal
