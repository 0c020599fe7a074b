import StreamRehearsal.Proofs.Server.TopPlaylist

/-! # What a server gives away

Clients choose the paths of their requests, and some of these name files.  However a path is
spelled, the server looks for one name in its media directory and nowhere else, and it brings what
it finds there or something that it has made itself.

* `Target.slash_notMem_split` and `Config.slash_notMem_stub` are the reasons: the name that a path
  ends in has no slash, and neither has the stub of a configuration without faults.
* `settle_serveStatic_file` and the lemmas after it are the replies to a request for a file by its
  name, and `status_serveStatic` says when there is which.
* `Server.Origin` lists where the body of a successful answer can come from, and
  `success_has_origin` says that there is no other place.  Only a simulated failure is successful
  and comes from nowhere (`success_without_origin`). -/

namespace StreamRehearsal

/-! ### Names -/

namespace Target

/-- The name that a path ends in holds no slash. -/
theorem slash_notMem_split (path : String) : '/' ∉ (split path).2.toList :=
  (splits_split path).slash_notMem

/-- The only file that is asked for by its name is the one that the path ends in. -/
theorem eq_of_kind_ofPath_eq_static {path file : String} {ignore : List String}
    (h : (ofPath path ignore).kind = .static file) : file = (split path).2 := by
  rw [ofPath_eq] at h
  exact (Kind.ofName_eq_iff.1 h).eq_of_static

end Target

namespace Config

theorem slash_notMem_of_isPlainName {name : String} (h : isPlainName name = true) :
    '/' ∉ name.toList := by
  intro hmem
  unfold isPlainName at h
  simp only [Bool.and_eq_true, Bool.not_eq_true', List.any_eq_false] at h
  exact h.1.1.2 '/' hmem (by decide)

theorem slash_notMem_stub {c : Config} (h : c.fault? = none) : '/' ∉ c.media.stub.toList := by
  unfold fault? at h
  split at h
  · exact absurd h nofun
  split at h
  next hplain => exact slash_notMem_of_isPlainName hplain
  next => exact absurd h nofun

end Config

namespace Server

variable {s : Server} {media : Directory} {name : String}

/-! ### Files by their names -/

theorem settle_serveStatic_file {bytes : ByteArray}
    (h : s.files.find (s.config.media.pathOf name) = .ok (.file bytes)) :
    settle (s.serveStatic name) = Reply.file (s.config.media.pathOf name) bytes 0 := by
  simp only [serveStatic, h]
  rfl

theorem settle_serveStatic_directory {entries : Directory}
    (h : s.files.find (s.config.media.pathOf name) = .ok (.directory entries)) :
    settle (s.serveStatic name) = Reply.bare 404 := by
  simp only [serveStatic, h]
  rfl

theorem settle_serveStatic_missing
    (h : s.files.find (s.config.media.pathOf name) = .error .missing) :
    settle (s.serveStatic name) = Reply.bare 404 := by
  simp only [serveStatic, h]
  rfl

theorem settle_serveStatic_fault {fault : OpenFault} (hfault : fault ≠ .missing)
    (h : s.files.find (s.config.media.pathOf name) = .error fault) :
    settle (s.serveStatic name) = Reply.bare 500 := by
  cases fault with
  | missing => exact absurd rfl hfault
  | throughFile => simp only [serveStatic, h]; rfl
  | nameTooLong => simp only [serveStatic, h]; rfl
  | nullCharacter => simp only [serveStatic, h]; rfl

/-- A request for a file by its name has one of three outcomes, by what its path leads to. -/
theorem status_serveStatic_iff_find (s : Server) (name : String) :
    let found := s.files.find (s.config.media.pathOf name)
    ((settle (s.serveStatic name)).status = 200 ↔ ∃ bytes, found = .ok (.file bytes)) ∧
      ((settle (s.serveStatic name)).status = 500 ↔
        ∃ fault, fault ≠ .missing ∧ found = .error fault) ∧
      ((settle (s.serveStatic name)).status = 404 ↔
        (∀ bytes, found ≠ .ok (.file bytes)) ∧
          ¬ ∃ fault, fault ≠ .missing ∧ found = .error fault) := by
  intro found
  cases hfind : s.files.find (s.config.media.pathOf name) with
  | ok node =>
      cases node with
      | file bytes => simp [found, hfind, settle_serveStatic_file hfind]
      | directory entries => simp [found, hfind, settle_serveStatic_directory hfind]
  | error fault =>
      by_cases hfault : fault = .missing
      · subst hfault
        simp [found, hfind, settle_serveStatic_missing hfind]
      · simp [found, hfind, settle_serveStatic_fault hfault hfind, hfault]

/-- The three outcomes, by what the media directory holds. -/
theorem status_serveStatic (hosts : s.files.Hosts s.config.media.dir media)
    (hname : '/' ∉ name.toList) :
    let unusable := FileSystem.IsUnusable s.config.media.dir name
    ((settle (s.serveStatic name)).status = 200 ↔
        (∃ bytes, media.Holds name bytes) ∧ ¬ unusable) ∧
      ((settle (s.serveStatic name)).status = 500 ↔ unusable) ∧
      ((settle (s.serveStatic name)).status = 404 ↔
        (∀ bytes, ¬ media.Holds name bytes) ∧ ¬ unusable) := by
  intro unusable
  have hfile : ∀ bytes, s.files.find (s.config.media.pathOf name) = .ok (.file bytes) ↔
      media.Holds name bytes ∧ ¬ unusable :=
    fun _ => hosts.find_pathIn_eq_file_iff hname
  have hfault : (∃ fault, fault ≠ .missing ∧
      s.files.find (s.config.media.pathOf name) = .error fault) ↔ unusable :=
    hosts.find_pathIn_eq_fault_iff hname
  obtain ⟨hfound, hfailed, habsent⟩ := s.status_serveStatic_iff_find name
  refine ⟨?_, hfailed.trans hfault, ?_⟩
  · simp only [hfound, hfile]
    exact exists_and_right
  · rw [habsent, hfault]
    refine and_congr_left fun husable => forall_congr' fun bytes => not_congr ?_
    exact (hfile bytes).trans (and_iff_left husable)

/-! ### Where bodies come from -/

/-- Where the body of a successful answer can come from, for the target of a request and the name
that its path ends in. -/
inductive Origin (config : Config) (media : Directory) (target : Target) (name : String)
    (body : ByteArray) : Prop where
  /-- The top-level playlist is a file. -/
  | topFile (kind_eq : target.kind = .mediaPlaylist) (holds : media.Holds mediaName body)
  /-- There is no such file, and a master playlist is generated. -/
  | generatedMaster (kind_eq : target.kind = .mediaPlaylist)
      (not_holds : ∀ bytes, ¬ media.Holds mediaName bytes)
      (body_eq : body = (generatedMaster config.media).text.toUTF8)
  /-- The rendition playlist is generated from the scenario. -/
  | renditionPlaylist (text : String) (kind_eq : target.kind = .renditionPlaylist)
      (text_eq : renditionText? (Scenario.compile target.scenario) = some text)
      (body_eq : body = text.toUTF8)
  /-- The stub is served for a segment. -/
  | stub (stem : String) (kind_eq : target.kind = .segment stem)
      (holds : media.Holds config.media.stub body)
  /-- A file is served under the name that the path ends in. -/
  | namedFile (kind_eq : target.kind = .static name) (holds : media.Holds name body)
  /-- A segment is failed, and the code of the failure says that it is a success. -/
  | simulated (stem : String) (t : Treatment) (kind_eq : target.kind = .segment stem)
      (treatment_eq : (Scenario.compile target.scenario).resolveSegment stem = .ok t)
      (code_eq : t.code? = some 200) (body_eq : body = .empty)

theorem body_bare (status : UInt16) (millis : Nat) :
    ((Reply.bare status).after millis).answer.body = .empty :=
  Reply.body_answer _

/-- A treatment that leads to success serves the stub, or fails with the code of a success. -/
theorem stub_or_simulated (hosts : s.files.Hosts s.config.media.dir media)
    (hstub : '/' ∉ s.config.media.stub.toList) {t : Treatment}
    (hstatus : (s.segmentReply t).status = 200) :
    media.Holds s.config.media.stub (s.segmentReply t).answer.body ∨
      t.code? = some 200 ∧ (s.segmentReply t).answer.body = .empty := by
  cases hcode : t.code? with
  | some code =>
      rw [segmentReply_of_code hcode] at hstatus ⊢
      have h : code = 200 := (status_failureReply_eq_iff (by decide)).1 hstatus
      exact .inr ⟨by rw [h], body_bare _ _⟩
  | none =>
      rw [segmentReply_of_served hcode] at hstatus ⊢
      refine .inl ?_
      cases hfind : s.files.find s.config.media.stubPath with
      | error fault =>
          rw [settle_serveStub_fault hfind, Reply.status_after] at hstatus
          exact absurd hstatus (by decide)
      | ok node =>
          cases node with
          | file bytes =>
              rw [settle_serveStub_file hfind, Reply.body_answer]
              exact ((hosts.find_pathIn_eq_file_iff hstub).1 hfind).1
          | directory entries =>
              rw [settle_serveStub_directory hfind, Reply.status_after] at hstatus
              exact absurd hstatus (by decide)

/-- A successful reply to a request for a name brings the file with this name. -/
theorem holds_of_status_serveStatic (hosts : s.files.Hosts s.config.media.dir media)
    (hname : '/' ∉ name.toList) (hstatus : (settle (s.serveStatic name)).status = 200) :
    media.Holds name (settle (s.serveStatic name)).answer.body := by
  obtain ⟨bytes, hfind⟩ := (s.status_serveStatic_iff_find name).1.1 hstatus
  rw [settle_serveStatic_file hfind, Reply.body_answer]
  exact ((hosts.find_pathIn_eq_file_iff hname).1 hfind).1

/-- A top-level playlist that is a success is a file, or there is no such file. -/
theorem holds_or_generated (hosts : s.files.Hosts s.config.media.dir media)
    (hstatus : (settle s.topPlaylist).status = 200) :
    media.Holds mediaName (settle s.topPlaylist).answer.body ∨
      (∀ bytes, ¬ media.Holds mediaName bytes) ∧
        (settle s.topPlaylist).answer.body = (generatedMaster s.config.media).text.toUTF8 := by
  have hslash : '/' ∉ mediaName.toList := by decide
  have hopen := status_settle_topPlaylist.1 hstatus
  rw [body_settle_topPlaylist hopen]
  split
  next bytes hfind => exact .inl ((hosts.find_pathIn_eq_file_iff hslash).1 hfind).1
  next hother =>
    have husable : ¬ FileSystem.IsUnusable s.config.media.dir mediaName := by
      intro hunusable
      obtain ⟨fault, hfault, hfind⟩ := (hosts.find_pathIn_eq_fault_iff hslash).2 hunusable
      exact hfault (hopen fault hfind)
    refine .inr ⟨fun bytes hholds => ?_, rfl⟩
    exact hother bytes ((hosts.find_pathIn_eq_file_iff hslash).2 ⟨hholds, husable⟩)

/-- What the body of a successful reply can be, one case for each thing that can be asked for. -/
theorem origin_of_status_replyTo (hosts : s.files.Hosts s.config.media.dir media)
    (hvalid : s.config.fault? = none) {target : Target} (hname : '/' ∉ name.toList)
    (hstatic : ∀ file, target.kind = .static file → file = name) {reply : Reply}
    (hreply : s.replyTo target = some reply) (hstatus : reply.status = 200) :
    Origin s.config media target name reply.answer.body := by
  obtain ⟨-, rfl⟩ | ⟨hkind, rfl⟩ | ⟨hkind, text, htext, rfl⟩ | ⟨stem, hkind, rfl⟩ |
    ⟨file, hkind, rfl⟩ := replyTo_cases hreply
  · exact absurd hstatus (by decide)
  · rcases holds_or_generated hosts hstatus with h | ⟨hnone, h⟩
    · exact .topFile hkind h
    · exact .generatedMaster hkind hnone h
  · exact .renditionPlaylist text hkind htext (Reply.body_answer _)
  · cases hresult : (Scenario.compile target.scenario).resolveSegment stem with
    | error request =>
        rw [hresult, resolvedReply_error] at hstatus
        exact absurd hstatus (by decide)
    | ok t =>
        rw [hresult] at hstatus
        rcases stub_or_simulated hosts (Config.slash_notMem_stub hvalid) hstatus with
          h | ⟨hcode, h⟩
        · exact .stub stem hkind h
        · exact .simulated stem t hkind hresult hcode h
  · obtain rfl := hstatic file hkind
    exact .namedFile hkind (holds_of_status_serveStatic hosts hname hstatus)

/-- **Nothing but what is in the media directory, or is made by the server, is given away.**
However the path of a request is spelled, the body of a successful answer is a generated playlist or
a file that the media directory itself holds under the name of the stub, of the top-level playlist or
under the name that the path ends in; or else the success is a simulated failure, and the body is
empty.  A request for a file by its name is a fault if the name is unusable, and otherwise it
succeeds if there is such a file, and finds nothing if there is none. -/
theorem success_has_origin (config : Config) {files : FileSystem} {media : Directory}
    (hosts : files.Hosts config.media.dir media) (history : List Request) {r : Request}
    (hvalid : config.fault? = none) (hread : isReading r.method = true)
    (hpath : r.path ≠ healthPath) :
    let answer? := (((start config files).run history).2.step r).1
    let target := Target.ofPath r.path config.scenario.ignore
    let name := (Target.split r.path).2
    let unusable := FileSystem.IsUnusable config.media.dir name
    (∀ answer, answer? = some answer → answer.status = 200 →
        Origin config media target name answer.body) ∧
      ∀ file, target.kind = .static file →
        file = name ∧ ∃ answer, answer? = some answer ∧
          (answer.status = 200 ↔ (∃ bytes, media.Holds name bytes) ∧ ¬ unusable) ∧
          (answer.status = 500 ↔ unusable) ∧
          (answer.status = 404 ↔ (∀ bytes, ¬ media.Holds name bytes) ∧ ¬ unusable) := by
  intro answer? target name unusable
  have hname : '/' ∉ name.toList := Target.slash_notMem_split r.path
  have hstatic : ∀ file, target.kind = .static file → file = name :=
    fun _ hkind => Target.eq_of_kind_ofPath_eq_static hkind
  have hanswer : answer? = ((start config files).replyTo target).map Reply.answer := by
    have hstep := ((serves_start config files).run history).fst_step r
    exact hstep.trans ((start config files).answerTo_of_isReading hread hpath)
  rw [hanswer]
  constructor
  · intro answer h hstatus
    obtain ⟨reply, hreply, rfl⟩ := Option.map_eq_some_iff.1 h
    exact origin_of_status_replyTo (s := start config files) hosts hvalid hname hstatic hreply
      hstatus
  · intro file hkind
    have hreply : (start config files).replyTo target =
        some (settle ((start config files).serveStatic name)) := by
      simp only [replyTo, hkind, hstatic file hkind]
    have hstatus := status_serveStatic (s := start config files) hosts hname
    refine ⟨hstatic file hkind, (settle ((start config files).serveStatic name)).answer, ?_, ?_⟩
    · rw [hreply, Option.map_some]
    · rw [Reply.status_answer]
      exact hstatus

/-- The path goes through a directory and up again, and ends in slashes: the file of this name in
the media directory is served. -/
theorem success_has_origin_of_detour :
    let config : Config := {}
    let media : Directory :=
      [("0.ts", .file ⟨#[71]⟩), ("sub", .directory [("index.html", .file ⟨#[83]⟩)]),
        ("index.html", .file ⟨#[72]⟩)]
    let files := FileSystem.beside media
    let r := Request.ofUri "GET" "/sub/../sub/index.html//"
    files.Hosts config.media.dir media ∧
      config.fault? = none ∧ isReading r.method = true ∧ r.path ≠ healthPath ∧
      ∃ answer, (((start config files).run []).2.step r).1 = some answer ∧
        answer.status = 200 ∧ answer.body = ⟨#[72]⟩ ∧
        Origin config media (Target.ofPath r.path config.scenario.ignore) (Target.split r.path).2
          answer.body := by
  intro config media files r
  have hosts : files.Hosts config.media.dir media := FileSystem.hosts_beside media
  have hvalid : config.fault? = none := by decide
  have hread : isReading r.method = true := by decide
  have hpath : r.path ≠ healthPath := by decide
  have hkind : (Target.ofPath r.path config.scenario.ignore).kind = .static "index.html" := by
    decide
  have hstatus : (((start config files).run []).2.step r).1.map Answer.status = some 200 := by
    decide
  have hbody : (((start config files).run []).2.step r).1.map Answer.body = some ⟨#[72]⟩ := by
    decide
  obtain ⟨horigin, hstatic⟩ := success_has_origin config hosts [] hvalid hread hpath
  obtain ⟨-, answer, hanswer, -⟩ := hstatic _ hkind
  rw [hanswer] at hstatus hbody
  have hstatus := Option.some.inj hstatus
  exact ⟨hosts, hvalid, hread, hpath, answer, hanswer, hstatus, Option.some.inj hbody,
    horigin answer hanswer hstatus⟩

/-- A text with a line in it is not empty. -/
theorem toUTF8_text_cons_ne_empty (line : String) (rest : List String) :
    (Lines.text (line :: rest)).toUTF8 ≠ .empty := by
  intro h
  have hsize : (Lines.text (line :: rest)).utf8ByteSize = 0 := congrArg ByteArray.size h
  rw [Lines.text_cons, String.utf8ByteSize_append, String.utf8ByteSize_append] at hsize
  have hfeed : "\n".utf8ByteSize = 1 := by decide
  omega

/-- A simulated failure can have the code of a success.  Its body is empty, and no file of the media
directory and no generated playlist is. -/
theorem success_without_origin :
    let config : Config := {}
    let media : Directory := [("0.ts", .file ⟨#[71]⟩)]
    let files := FileSystem.beside media
    let r := Request.ofUri "GET" "/e200/0.ts"
    let answer? := ((start config files).step r).1
    files.Hosts config.media.dir media ∧
      config.fault? = none ∧ isReading r.method = true ∧ r.path ≠ healthPath ∧
      answer?.map Answer.status = some 200 ∧ answer?.map Answer.body = some .empty ∧
      (∀ name, ¬ media.Holds name .empty) ∧
      (∀ p : MasterPlaylist, p.text.toUTF8 ≠ .empty) ∧
      ∀ p : MediaPlaylist, p.text.toUTF8 ≠ .empty := by
  intro config media files r answer?
  refine ⟨FileSystem.hosts_beside media, by decide, by decide, by decide, by decide, by decide, ?_,
    fun p => toUTF8_text_cons_ne_empty _ _, fun p => toUTF8_text_cons_ne_empty _ _⟩
  rintro name ⟨-, hchild⟩
  rw [Directory.child?_cons] at hchild
  split at hchild
  · have hbytes : (⟨#[71]⟩ : ByteArray) = .empty := Node.file.inj (Option.some.inj hchild)
    exact absurd hbytes (by decide)
  · exact absurd hchild nofun

end Server

end StreamRehearsal
