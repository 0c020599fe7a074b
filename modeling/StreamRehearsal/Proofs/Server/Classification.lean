import StreamRehearsal.Proofs.Server.Target

/-! # What a path asks for

Every path asks for one thing.  Here this is said without cutting the path: which texts it is put
together from, and what is asked for by a name.

* `Target.Splits path scenario name` says that a path is a scenario string, a slash and a name, with
  slashes at its end that count for nothing; `split_eq_iff` says that every path is taken apart in
  this way and in no other.
* `Target.Asks ignore name kind` lists what a name can ask for, and when; `Kind.ofName_eq_iff` says
  that it asks for exactly one of these.
* `ofPath_exact` puts the two together, with what follows for paths with more slashes at their end
  and for paths that are put together from a directory and a name. -/

namespace StreamRehearsal

namespace Target

variable {path rest scenario name : String} {ignore : List String}

/-! ### The two parts of a path -/

/-- The path is this text and any number of slashes after it, and the text does not end in one. -/
structure Trims (path rest : String) : Prop where
  exists_slashes : ∃ n, path.toList = rest.toList ++ List.replicate n '/'
  getLast?_ne : rest.toList.getLast? ≠ some '/'

/-- The scenario string and the name in a text, which are what is before and after its last
slash. -/
inductive Parts (rest : String) : String → String → Prop where
  /-- Without a slash there is no scenario string. -/
  | bare (slash_notMem : '/' ∉ rest.toList) : Parts rest "" rest
  /-- Nothing before the slash stands for the root. -/
  | root (name : String) (rest_eq : rest = "/" ++ name) (slash_notMem : '/' ∉ name.toList) :
    Parts rest "/" name
  | below (dir name : String) (dir_ne : dir ≠ "") (rest_eq : rest = dir ++ "/" ++ name)
    (slash_notMem : '/' ∉ name.toList) : Parts rest dir name

/-- The path is made of this scenario string and this name. -/
def Splits (path scenario name : String) : Prop := ∃ rest, Trims path rest ∧ Parts rest scenario name

theorem Parts.slash_notMem_name (h : Parts rest scenario name) : '/' ∉ name.toList := by
  cases h with
  | bare slash_notMem => exact slash_notMem
  | root name rest_eq slash_notMem => exact slash_notMem
  | below dir name dir_ne rest_eq slash_notMem => exact slash_notMem

/-- The name that a path ends in holds no slash. -/
theorem Splits.slash_notMem (h : Splits path scenario name) : '/' ∉ name.toList := by
  obtain ⟨rest, -, hparts⟩ := h
  exact hparts.slash_notMem_name

theorem splits_split (path : String) : Splits path (split path).1 (split path).2 := by
  refine ⟨String.ofList (Cut.dropTrailing '/' path.toList), ⟨?_, ?_⟩, ?_⟩
  · rw [String.toList_ofList]
    exact Cut.exists_eq_dropTrailing_append '/' path.toList
  · rw [String.toList_ofList]
    exact Cut.getLast?_dropTrailing_ne '/' path.toList
  · unfold split
    cases hcut : Cut.cutLast? '/' (Cut.dropTrailing '/' path.toList) with
    | none =>
        simp only [hcut]
        exact .bare (by rwa [String.toList_ofList, ← Cut.cutLast?_eq_none_iff])
    | some cut =>
        obtain ⟨before, after⟩ := cut
        obtain ⟨hrest, hafter⟩ := Cut.cutLast?_eq_some_iff.1 hcut
        rw [← String.toList_ofList (l := after)] at hafter
        cases before with
        | nil =>
            simp only [hcut]
            exact .root _ (by simp [hrest]) hafter
        | cons c before =>
            simp only [hcut]
            exact .below _ _ (by simp [String.ext_iff]) (by simp [hrest, String.ext_iff]) hafter

theorem Splits.split_eq (h : Splits path scenario name) : split path = (scenario, name) := by
  obtain ⟨rest, ⟨hslashes, hlast⟩, hparts⟩ := h
  have hdrop : Cut.dropTrailing '/' path.toList = rest.toList :=
    Cut.dropTrailing_eq_iff.2 ⟨hslashes, hlast⟩
  unfold split
  simp only [hdrop]
  cases hparts with
  | bare slash_notMem =>
      simp only [Cut.cutLast?_eq_none_iff.2 slash_notMem, String.ofList_toList]
  | root name rest_eq slash_notMem =>
      have hchars : rest.toList = [] ++ '/' :: name.toList := by simp [rest_eq]
      simp only [hchars, Cut.cutLast?_append_cons _ _ slash_notMem, String.ofList_toList]
  | below _ _ scenario_ne rest_eq slash_notMem =>
      have hchars : rest.toList = scenario.toList ++ '/' :: name.toList := by simp [rest_eq]
      have hne : scenario.toList ≠ [] := mt String.toList_eq_nil_iff.1 scenario_ne
      simp only [hchars, Cut.cutLast?_append_cons _ _ slash_notMem, String.ofList_toList]

/-- What a name asks for, by its place on the ignore list and its spelling. -/
inductive Asks (ignore : List String) (name : String) : Kind → Prop where
  | ignored (listed : name ∈ ignore) : Asks ignore name .ignored
  | segment (stem : String) (unlisted : name ∉ ignore) (stem_ne : stem ≠ "")
    (name_eq : name = stem ++ ".ts") : Asks ignore name (.segment stem)
  | mediaPlaylist (unlisted : name ∉ ignore) (name_eq : name = mediaName) :
    Asks ignore name .mediaPlaylist
  | renditionPlaylist (unlisted : name ∉ ignore) (name_eq : name = renditionName) :
    Asks ignore name .renditionPlaylist
  | static (unlisted : name ∉ ignore) (not_segment : ∀ stem, stem ≠ "" → name ≠ stem ++ ".ts")
    (ne_media : name ≠ mediaName) (ne_rendition : name ≠ renditionName) :
    Asks ignore name (.static name)

theorem stem?_eq_some_iff {cs stem : List Char} :
    stem? cs = some stem ↔ stem ≠ [] ∧ cs = stem ++ ['.', 't', 's'] := by
  constructor
  · intro h
    unfold stem? at h
    split at h
    next before after hcut =>
      obtain ⟨hcs, -⟩ := Cut.cutLast?_eq_some_iff.1 hcut
      split at h
      next hboth =>
        obtain ⟨rfl, hne⟩ := hboth
        obtain rfl := Option.some.inj h
        exact ⟨hne, hcs⟩
      next => exact absurd h nofun
    next => exact absurd h nofun
  · rintro ⟨hne, rfl⟩
    have hdot : '.' ∉ ['t', 's'] := by decide
    have hcut := Cut.cutLast?_append_cons '.' stem hdot
    simp only [stem?, hcut, hne, ne_eq, not_false_eq_true, and_self, if_true]

/-- The segments' names, as strings. -/
theorem stem?_toList_eq_some_iff {stem : List Char} :
    stem? name.toList = some stem ↔
      String.ofList stem ≠ "" ∧ name = String.ofList stem ++ ".ts" := by
  rw [stem?_eq_some_iff]
  simp [String.ext_iff]

theorem asks_ofName (name : String) (ignore : List String) :
    Asks ignore name (Kind.ofName name ignore) := by
  unfold Kind.ofName
  split
  next hlisted => exact .ignored (by simpa using hlisted)
  next hunlisted =>
  have hunlisted : name ∉ ignore := by simpa using hunlisted
  split
  next stem hstem =>
    obtain ⟨hne, hname⟩ := stem?_toList_eq_some_iff.1 hstem
    exact .segment _ hunlisted hne hname
  next hstem =>
  split
  next hmedia => exact .mediaPlaylist hunlisted hmedia
  next hmedia =>
  split
  next hrendition => exact .renditionPlaylist hunlisted hrendition
  next hrendition =>
  refine .static hunlisted (fun stem hne hname => ?_) hmedia hrendition
  have hsome : stem? name.toList = some stem.toList :=
    stem?_toList_eq_some_iff.2 (by simpa using ⟨hne, hname⟩)
  rw [hstem] at hsome
  exact absurd hsome nofun

theorem Asks.ofName_eq {kind : Kind} (h : Asks ignore name kind) :
    Kind.ofName name ignore = kind := by
  cases h with
  | ignored listed => exact if_pos (by simpa using listed)
  | segment stem unlisted stem_ne name_eq =>
      have hstem : stem? name.toList = some stem.toList :=
        stem?_toList_eq_some_iff.2 (by simpa using ⟨stem_ne, name_eq⟩)
      rw [Kind.ofName, if_neg (by simpa using unlisted), hstem]
      simp only [String.ofList_toList]
  | mediaPlaylist unlisted name_eq =>
      have hstem : stem? mediaName.toList = none := by decide
      rw [name_eq] at unlisted ⊢
      rw [Kind.ofName, if_neg (by simpa using unlisted), hstem]
      exact if_pos rfl
  | renditionPlaylist unlisted name_eq =>
      rw [name_eq] at unlisted ⊢
      exact Kind.ofName_renditionName unlisted
  | static unlisted not_segment ne_media ne_rendition =>
      have hstem : stem? name.toList = none := by
        refine Option.eq_none_iff_forall_ne_some.2 fun stem hstem => ?_
        obtain ⟨hne, hname⟩ := stem?_toList_eq_some_iff.1 hstem
        exact not_segment _ hne hname
      rw [Kind.ofName, if_neg (by simpa using unlisted), hstem]
      simp only [if_neg ne_media, if_neg ne_rendition]

/-- **Every name asks for one thing.** -/
theorem Kind.ofName_eq_iff {kind : Kind} : ofName name ignore = kind ↔ Asks ignore name kind :=
  ⟨fun h => h ▸ asks_ofName name ignore, Asks.ofName_eq⟩

/-! ### Whole paths -/

theorem ofPath_eq (path : String) (ignore : List String) :
    ofPath path ignore = ⟨(split path).1, Kind.ofName (split path).2 ignore⟩ := by
  unfold ofPath
  cases split path with
  | mk scenario name => rfl

theorem ofPath_eq_iff {target : Target} :
    ofPath path ignore = target ↔
      ∃ name, Splits path target.scenario name ∧ Asks ignore name target.kind := by
  constructor
  · rintro rfl
    rw [ofPath_eq]
    exact ⟨_, splits_split path, asks_ofName _ ignore⟩
  · rintro ⟨name, hsplits, hasks⟩
    rw [ofPath_eq, hsplits.split_eq, hasks.ofName_eq]

/-- Slashes at the end of a path change nothing. -/
theorem split_append_slashes (path : String) (n : Nat) :
    split (path ++ String.ofList (List.replicate n '/')) = split path := by
  unfold split
  rw [String.toList_append, String.toList_ofList, Cut.dropTrailing_append_replicate]

/-- A file that is asked for by its name is the one that the path ends in. -/
theorem Asks.eq_of_static {file : String} (h : Asks ignore name (.static file)) : file = name := by
  cases h with
  | static unlisted not_segment ne_media ne_rendition => rfl

theorem Asks.slash_notMem_stem {stem : String} (h : Asks ignore name (.segment stem))
    (hname : '/' ∉ name.toList) : '/' ∉ stem.toList := by
  cases h with
  | segment stem unlisted stem_ne name_eq =>
      intro hstem
      refine hname ?_
      rw [name_eq, String.toList_append]
      exact List.mem_append_left _ hstem

/-- **What a path asks for.**  A path asks for a target exactly if it is made of the target's
scenario string and a name that asks for the target's kind.  So neither files nor stems hold
slashes, more slashes at the end of the path change nothing, and a path that is put together from a
directory and a name asks for what the name asks for, with the directory as its scenario string. -/
theorem ofPath_exact (path : String) (ignore : List String) :
    (∀ target, ofPath path ignore = target ↔
        ∃ rest name, Trims path rest ∧ Parts rest target.scenario name ∧
          Asks ignore name target.kind) ∧
      (∀ file, (ofPath path ignore).kind = .static file → '/' ∉ file.toList) ∧
      (∀ stem, (ofPath path ignore).kind = .segment stem → '/' ∉ stem.toList) ∧
      (∀ n, ofPath (path ++ String.ofList (List.replicate n '/')) ignore = ofPath path ignore) ∧
      ∀ dir name, name ≠ "" → '/' ∉ name.toList → ∀ target,
        (ofPath (dir ++ "/" ++ name) ignore = target ↔
          target.scenario = (if dir = "" then "/" else dir) ∧ Asks ignore name target.kind) := by
  obtain ⟨name, hsplits, hasks⟩ := ofPath_eq_iff.1 (rfl : ofPath path ignore = _)
  have hname : '/' ∉ name.toList := hsplits.slash_notMem
  refine ⟨fun target => ?_, fun file hfile => ?_, fun stem hstem => ?_, fun n => ?_, ?_⟩
  · rw [ofPath_eq_iff]
    constructor
    · rintro ⟨name, ⟨rest, htrims, hparts⟩, hasks⟩
      exact ⟨rest, name, htrims, hparts, hasks⟩
    · rintro ⟨rest, name, htrims, hparts, hasks⟩
      exact ⟨name, ⟨rest, htrims, hparts⟩, hasks⟩
  · rw [hfile] at hasks
    rwa [hasks.eq_of_static]
  · rw [hstem] at hasks
    exact hasks.slash_notMem_stem hname
  · rw [ofPath_eq, ofPath_eq, split_append_slashes]
  · intro dir name hne hslash target
    rw [ofPath_append dir hne hslash, ← Kind.ofName_eq_iff]
    constructor
    · rintro rfl
      exact ⟨rfl, rfl⟩
    · rintro ⟨hscenario, hkind⟩
      rw [← hscenario, hkind]

example :
    ofPath "//a//b.c.ts///" [] = ⟨"//a/", .segment "b.c"⟩ ∧ ofPath "/.ts" [] = ⟨"/", .static ".ts"⟩ ∧
      ofPath "///" [] = ⟨"", .static ""⟩ ∧ ofPath "media.m3u8" [] = ⟨"", .mediaPlaylist⟩ := by
  decide

end Target

end StreamRehearsal
