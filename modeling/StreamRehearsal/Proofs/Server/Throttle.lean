import StreamRehearsal.Proofs.Server.Pacing
import StreamRehearsal.Proofs.Server.Segment
import StreamRehearsal.Proofs.Timeline.Meaning

/-! # Delayed segments

A segment that is held back comes late in both modes.  In one mode nothing is sent until the delay
is over, in the other the head is sent at once and each piece of the file waits its share.

* `Reply.getElem?_frames_file` and `Reply.doneTime_answer_file` are the times of an answer with a
  file, for any wait before the head and any wait before each piece.
* `throttled_schedule` is the schedule of a throttled file, from the first frame to the end, and how
  close to the delay the end is.
* `honoured_iff` says when the whole delay is waited for: always, unless an empty file is throttled,
  which has no piece to wait before. -/

namespace StreamRehearsal

/-! ### The pieces of a file -/

namespace Pacing

@[simp] theorem length_pieces (bytes : ByteArray) :
    (pieces bytes).length = pieceCount bytes.size := by
  simp [pieces]

theorem size_of_getElem?_pieces {bytes piece : ByteArray} {i : Nat}
    (h : (pieces bytes)[i]? = some piece) (hi : i + 1 < pieceCount bytes.size) :
    piece.size = pieceSize := by
  have hpiece : piece = bytes.extract (i * pieceSize) ((i + 1) * pieceSize) := by
    have hlt : i < pieceCount bytes.size := by omega
    simpa [pieces, hlt] using h.symm
  have hfull : (i + 1) * pieceSize < bytes.size := by
    by_contra hle
    exact Nat.not_le_of_lt hi ((ceilDiv_le_iff (by decide)).2 (by omega))
  rw [hpiece, ByteArray.size_extract]
  simp only [pieceSize] at hfull ⊢
  omega

end Pacing

theorem Answer.doneTime_eq_getD (a : Answer) :
    a.doneTime = (a.frames.getLast?.map Frame.time).getD a.headTime := by
  unfold doneTime
  cases a.frames.getLast? <;> rfl

namespace Reply

variable (path : String) (bytes : ByteArray) (pause millis : Nat)

theorem getElem?_frames_file (i : Nat) :
    ((file path bytes pause).after millis).answer.frames[i]? =
      (Pacing.pieces bytes)[i]?.map fun piece => ⟨millis + (i + 1) * pause, piece⟩ :=
  List.getElem?_mapIdx

@[simp] theorem length_frames_file :
    ((file path bytes pause).after millis).answer.frames.length =
      Pacing.pieceCount bytes.size := by
  show ((Pacing.pieces bytes).mapIdx _).length = _
  rw [List.length_mapIdx, Pacing.length_pieces]

/-- The body ends when the last piece has been waited for. -/
theorem doneTime_answer_file :
    ((file path bytes pause).after millis).answer.doneTime =
      millis + Pacing.pieceCount bytes.size * pause := by
  rw [Answer.doneTime_eq_getD, List.getLast?_eq_getElem?, length_frames_file,
    getElem?_frames_file]
  cases hcount : Pacing.pieceCount bytes.size with
  | zero =>
      have hpieces : Pacing.pieces bytes = [] := List.length_eq_zero_iff.1 (by simp [hcount])
      rw [hpieces, List.getElem?_nil, Nat.zero_mul]
      rfl
  | succ n =>
      have hlt : n < (Pacing.pieces bytes).length := by simp [hcount]
      rw [Nat.add_sub_cancel, List.getElem?_eq_getElem hlt]
      rfl

end Reply

/-- The answer brings these bytes in pieces, each after a wait of its own, and its head at once. -/
structure Answer.Trickles (a : Answer) (bytes : ByteArray) (wait : Nat) : Prop
    extends a.Delivers bytes 0 where
  length_eq : a.frames.length = Pacing.pieceCount bytes.size
  size_eq : ∀ i f, a.frames[i]? = some f → i + 1 < a.frames.length → f.bytes.size = Pacing.pieceSize
  time_eq : ∀ i f, a.frames[i]? = some f → f.time = (i + 1) * wait
  doneTime_eq : a.doneTime = a.frames.length * wait

theorem Reply.trickles_answer_file (path : String) (bytes : ByteArray) (pause : Nat) :
    ((file path bytes pause).after 0).answer.Trickles bytes pause where
  toDelivers := delivers_answer_file path bytes pause 0
  length_eq := length_frames_file path bytes pause 0
  size_eq i f hf hi := by
    rw [getElem?_frames_file] at hf
    obtain ⟨piece, hpiece, rfl⟩ := Option.map_eq_some_iff.1 hf
    rw [length_frames_file] at hi
    exact Pacing.size_of_getElem?_pieces hpiece hi
  time_eq i f hf := by
    rw [getElem?_frames_file] at hf
    obtain ⟨piece, -, rfl⟩ := Option.map_eq_some_iff.1 hf
    exact Nat.zero_add _
  doneTime_eq := by
    rw [doneTime_answer_file, length_frames_file, Nat.zero_add]

/-- No segment is held back for zero seconds. -/
theorem Scenario.delay?_ne_zero_of_resolveSegment {path stem : String} {t : Treatment}
    (h : (compile path).resolveSegment stem = .ok t) : t.delay? ≠ some 0 := by
  unfold resolveSegment Timeline.resolveName at h
  split at h
  next index _ =>
    rw [Timeline.resolve_eq_lookup, Except.ok.injEq] at h
    rw [← h]
    exact Timeline.delay?_lookup_ofOperations_ne_zero (Token.operations path) index
  next => exact absurd h nofun

namespace Server

/-! ### Requests for delayed segments -/

/-- The request is for a segment that is served this many seconds late. -/
def HeldBack (config : Config) (r : Request) (secs : UInt64) : Prop :=
  let target := Target.ofPath r.path config.scenario.ignore
  isReading r.method = true ∧ ∃ stem, target.kind = .segment stem ∧
    (Scenario.compile target.scenario).resolveSegment stem = .ok (.delayed secs)

variable {config : Config} {files : FileSystem} {r : Request} {secs : UInt64} {bytes : ByteArray}

/-- Whatever was asked before, the stub is the answer, and the mode decides which of the two waits
is for the delay. -/
theorem HeldBack.answer_eq (h : HeldBack config r secs)
    (hstub : files.find config.media.stubPath = .ok (.file bytes)) (history : List Request) :
    (((start config files).run history).2.step r).1 =
      some ((Reply.file config.media.stubPath bytes
        (pauseOf bytes (config.scenario.delayMode.spread (some secs)))).after
          (config.scenario.delayMode.headTime (some secs))).answer := by
  obtain ⟨hread, stem, hkind, hresult⟩ := h
  have hreply : (start config files).resolvedReply (.ok (.delayed secs)) =
      (Reply.file config.media.stubPath bytes
        (pauseOf bytes (config.scenario.delayMode.spread (some secs)))).after
          (config.scenario.delayMode.headTime (some secs)) :=
    (segmentReply_of_served (s := start config files) (t := .delayed secs) rfl).trans
      (congrArg (Reply.after · _) (settle_serveStub_file (s := start config files) hstub _))
  rw [((serves_start config files).run history).fst_step r, answerTo_segment hread hkind hresult,
    hreply]

theorem HeldBack.pos (h : HeldBack config r secs) : 0 < secs.toNat := by
  obtain ⟨-, stem, -, hresult⟩ := h
  have hne : secs ≠ 0 := by
    rintro rfl
    exact Scenario.delay?_ne_zero_of_resolveSegment hresult rfl
  exact Nat.pos_of_ne_zero fun e => hne (UInt64.toNat_inj.1 e)

/-! ### The schedule of a throttled file -/

/-- **The schedule of a throttled segment.**  The head is sent at once and the stub in full pieces,
but for the last, each after the same wait: the delay divided among the pieces and rounded up to a
millisecond, or the longest wait.  If that limit is not reached, the end comes no earlier than the
delay and later by less than a millisecond for each piece. -/
theorem throttled_schedule (config : Config) (files : FileSystem) (history : List Request)
    {r : Request} {secs : UInt64} {bytes : ByteArray}
    (hmode : config.scenario.delayMode = .throttle) (hheld : HeldBack config r secs)
    (hstub : files.find config.media.stubPath = .ok (.file bytes)) (hsize : 0 < bytes.size) :
    let answer? := (((start config files).run history).2.step r).1
    let count := Pacing.pieceCount bytes.size
    let wait := ceilDiv (1000 * secs.toNat) count
    ∃ answer, answer? = some answer ∧
      answer.Trickles bytes (min wait Pacing.longestWait) ∧
      (wait ≤ Pacing.longestWait →
        1000 * secs.toNat ≤ answer.doneTime ∧ answer.doneTime < 1000 * secs.toNat + count) := by
  intro answer? count wait
  have hcount : 0 < count := Pacing.pieceCount_pos hsize
  have hanswer : answer? = some ((Reply.file config.media.stubPath bytes
      (min wait Pacing.longestWait)).after 0).answer := by
    rw [show answer? = _ from hheld.answer_eq hstub history, hmode, ← Pacing.pause_of_pos hsize]
    rfl
  have htrickles := Reply.trickles_answer_file config.media.stubPath bytes
    (min wait Pacing.longestWait)
  refine ⟨_, hanswer, htrickles, fun hwait => ?_⟩
  have hdone : ((Reply.file config.media.stubPath bytes
      (min wait Pacing.longestWait)).after 0).answer.doneTime = wait * count := by
    rw [htrickles.doneTime_eq, htrickles.length_eq, Nat.min_eq_left hwait, Nat.mul_comm]
  rw [hdone]
  exact ⟨le_ceilDiv_mul _ hcount, ceilDiv_mul_lt _ hcount⟩

/-- Seven seconds over three pieces: each wait is rounded up to 2334 milliseconds. -/
theorem throttled_schedule_of_three :
    let config : Config := { scenario := { delayMode := .throttle } }
    let bytes : ByteArray := ⟨Array.replicate 40000 71⟩
    let files := FileSystem.beside [("0.ts", .file bytes)]
    let r := Request.ofUri "GET" "/p5-r7/1.ts"
    config.scenario.delayMode = .throttle ∧ HeldBack config r 7 ∧
      files.find config.media.stubPath = .ok (.file bytes) ∧ 0 < bytes.size ∧
      ∃ answer, (((start config files).run [Request.ofUri "GET" "/p5/0.ts"]).2.step r).1 =
          some answer ∧
        answer.Trickles bytes 2334 ∧ answer.doneTime = 7002 := by
  have hheld : HeldBack { scenario := { delayMode := .throttle } }
      (Request.ofUri "GET" "/p5-r7/1.ts") 7 :=
    ⟨by decide, "1", by decide, rfl⟩
  intro config bytes files r
  have hstub : files.find config.media.stubPath = .ok (.file bytes) :=
    find_stubPath_beside (.file bytes)
  have hbytes : bytes.size = 40000 := Array.size_replicate
  have hsize : 0 < bytes.size := by omega
  have hcount : Pacing.pieceCount bytes.size = 3 := by
    rw [hbytes]
    decide
  obtain ⟨answer, hanswer, h, -⟩ := throttled_schedule config files
    [Request.ofUri "GET" "/p5/0.ts"] rfl hheld hstub hsize
  rw [hcount] at h
  have hwait : min (ceilDiv (1000 * (7 : UInt64).toNat) 3) Pacing.longestWait = 2334 := by decide
  rw [hwait] at h
  refine ⟨rfl, hheld, hstub, hsize, answer, hanswer, h, ?_⟩
  rw [h.doneTime_eq, h.length_eq, hcount]

/-! ### When the delay is over -/

/-- **When a delay is honoured.**  A segment with a delay that is no longer than the longest wait is
complete no earlier than that, in both modes, unless an empty stub is throttled. -/
theorem honoured_iff (config : Config) (files : FileSystem) (history : List Request)
    {r : Request} {secs : UInt64} {bytes : ByteArray} (hheld : HeldBack config r secs)
    (hlimit : 1000 * secs.toNat ≤ Pacing.longestWait)
    (hstub : files.find config.media.stubPath = .ok (.file bytes)) :
    ∃ answer, (((start config files).run history).2.step r).1 = some answer ∧
      (1000 * secs.toNat ≤ answer.doneTime ↔
        config.scenario.delayMode = .sleep ∨ 0 < bytes.size) := by
  refine ⟨_, hheld.answer_eq hstub history, ?_⟩
  rw [Reply.doneTime_answer_file]
  cases config.scenario.delayMode with
  | sleep =>
      have hhead : DelayMode.headTime .sleep (some secs) = 1000 * secs.toNat :=
        Nat.min_eq_left hlimit
      rw [hhead]
      exact ⟨fun _ => .inl rfl, fun _ => Nat.le_add_right _ _⟩
  | throttle =>
      have hpos := hheld.pos
      show 1000 * secs.toNat ≤ 0 + Pacing.pieceCount bytes.size * Pacing.pause bytes.size secs ↔ _
      rcases Nat.eq_zero_or_pos bytes.size with hempty | hsize
      · rw [hempty, Pacing.pieceCount_eq_zero_iff.2 rfl, Nat.zero_mul]
        have hlate : ¬ 1000 * secs.toNat ≤ 0 + 0 := by omega
        exact iff_of_false hlate (by simp)
      · have hcount := Pacing.pieceCount_pos hsize
        have hwait : ceilDiv (1000 * secs.toNat) (Pacing.pieceCount bytes.size) ≤
            Pacing.longestWait :=
          (ceilDiv_le_self _ hcount).trans hlimit
        rw [Pacing.pause_of_pos hsize, Nat.min_eq_left hwait, Nat.zero_add,
          Nat.mul_comm (Pacing.pieceCount bytes.size)]
        exact ⟨fun _ => .inr hsize, fun _ => le_ceilDiv_mul _ hcount⟩

/-- An empty stub is waited for where nothing is throttled. -/
theorem honoured_iff_of_sleep :
    let config : Config := {}
    let files := FileSystem.beside [("0.ts", .file .empty)]
    let r := Request.ofUri "GET" "/r5/0.ts"
    HeldBack config r 5 ∧ 1000 * (5 : UInt64).toNat ≤ Pacing.longestWait ∧
      files.find config.media.stubPath = .ok (.file .empty) ∧
      ∃ answer, (((start config files).run [Request.ofUri "GET" "/p5/0.ts"]).2.step r).1 =
          some answer ∧
        5000 ≤ answer.doneTime := by
  have hheld : HeldBack {} (Request.ofUri "GET" "/r5/0.ts") 5 := ⟨by decide, "0", by decide, rfl⟩
  have hlimit : 1000 * (5 : UInt64).toNat ≤ Pacing.longestWait := by decide
  have hstub := find_stubPath_beside (.file .empty)
  obtain ⟨answer, hanswer, hdone⟩ := honoured_iff {}
    (FileSystem.beside [("0.ts", .file .empty)]) [Request.ofUri "GET" "/p5/0.ts"] hheld hlimit hstub
  exact ⟨hheld, hlimit, hstub, answer, hanswer, hdone.2 (.inl rfl)⟩

/-- An empty stub has no piece to wait before, so throttling it delays nothing. -/
theorem not_honoured_of_empty_stub :
    let config : Config := { scenario := { delayMode := .throttle } }
    let files := FileSystem.beside [("0.ts", .file .empty)]
    let r := Request.ofUri "GET" "/r5/0.ts"
    config.fault? = none ∧ HeldBack config r 5 ∧
      1000 * (5 : UInt64).toNat ≤ Pacing.longestWait ∧
      files.find config.media.stubPath = .ok (.file .empty) ∧
      ((start config files).step r).1.map Answer.doneTime = some 0 :=
  ⟨by decide, ⟨by decide, "0", by decide, rfl⟩, by decide, find_stubPath_beside _, by decide⟩

end Server

end StreamRehearsal
