import StreamRehearsal.Command.Run
import StreamRehearsal.Proofs.Net.HostAddress

/-! # Checking and starting

A configuration is checked by one command and served by another, which goes through the same checks
and then reads the address to listen at.

* `Command.ofWords_validate` and `Command.ofWords_start` are what the words of the two commands ask
  for.
* `Command.exitCode_validate_eq_zero_iff` says what the check accepts: every configuration that can
  be loaded.
* `Command.startUp_of_load` says what is left to go wrong when a server is started with it.
* `Command.start_of_valid` puts these together: a configuration that was checked is served if and
  only if its host is the address of a host, and not a name. -/

namespace StreamRehearsal

/-! ### The words of the two commands -/

namespace Grammar

theorem toList_ne_of_isDashed {word : String} (h : isDashed word = false) (c : Char)
    (cs : List Char) : word.toList ≠ '-' :: c :: cs := by
  intro e
  have hne : word ≠ "-" := by
    rintro rfl
    exact nomatch (List.cons.inj e).2
  simp [isDashed, e, hne] at h

/-- A word without a dash that names no subcommand is an operand. -/
theorem scanWords_operand {grammar : Grammar} {g : Given} {word : String} {rest : List String}
    (hsub : grammar.subcommands.contains word = false) (hword : isDashed word = false) :
    grammar.scanWords none false g (word :: rest) =
      match grammar.giveOperand word g with
      | .ok g => grammar.scanWords none false g rest
      | .error stop => .error stop := by
  have hdashes := toList_ne_of_isDashed hword
  rw [scanWords, hsub]
  simp only [Bool.false_eq_true, if_false]
  split
  next h => exact absurd h (hdashes _ _)
  next h => exact absurd h (hdashes _ _)
  next h => exact absurd h (hdashes _ _)
  next => rfl

end Grammar

namespace Command

variable {path : String}

theorem ofWords_validate (hword : Grammar.isDashed path = false) (hpath : path ≠ "") :
    ofWords ["validate", path] = .ok (.validate path) := by
  have hgive : validateGrammar.giveOperand path ⟨[], []⟩ = .ok ⟨[], [path]⟩ := by
    simp [Grammar.giveOperand, validateGrammar, isPath, hpath]
  show (scanInner validateGrammar [path]).map _ = _
  unfold scanInner Grammar.scan
  rw [Grammar.scanWords_operand rfl hword, hgive]
  rfl

/-- No setting is changed. -/
def unchanged : Overrides := ⟨none, none, none, none⟩

theorem ofWords_start (hword : Grammar.isDashed path = false) (hpath : path ≠ "") :
    ofWords ["start", "--config", path] = .ok (.start path unchanged) := by
  have hoption : startGrammar.scanWords none false ⟨[], []⟩ ["--config", path] =
      startGrammar.scanWords (some configRule) false ⟨[], []⟩ [path] :=
    rfl
  have hgive : configRule.give path ⟨[], []⟩ = .ok ⟨[("config", path)], []⟩ := by
    have haccepts : isPath path = true := by simpa [isPath] using hpath
    exact if_pos haccepts
  show (scanInner startGrammar ["--config", path]).map _ = _
  unfold scanInner Grammar.scan
  rw [hoption, Grammar.scanWords, hword, hgive]
  rfl

variable {env : Environment}

theorem runWords_validate (hword : Grammar.isDashed path = false) (hpath : path ≠ "") :
    runWords env ["validate", path] = (validate path).run env := by
  rw [runWords, ofWords_validate hword hpath]

theorem runWords_start (hword : Grammar.isDashed path = false) (hpath : path ≠ "") :
    runWords env ["start", "--config", path] = (start path unchanged).run env := by
  rw [runWords, ofWords_start hword hpath]

/-- The check of no path at all is a misuse. -/
theorem ne_of_exitCode_validate (h : (runWords env ["validate", path]).exitCode = 0) :
    path ≠ "" := by
  rintro rfl
  have hexit : (2 : UInt32) ≠ 0 := by decide
  exact hexit h

end Command

/-! ### What is checked -/

/-- Nothing is stored but a text at one path. -/
def Environment.holding (path text : String) : Environment where
  home := "/root"
  stored p := if p = path then .bytes text.toUTF8 else .absent

theorem fromUTF8?_toUTF8 (text : String) : String.fromUTF8? text.toUTF8 = some text := by
  unfold String.fromUTF8?
  rw [String.toUTF8_eq_toByteArray, dif_pos text.isValidUTF8]
  rfl

theorem Config.load_holding (path : String) {text : String} {c : Config}
    (htext : ofText? text = some c) (hfault : c.fault? = none) :
    load ((Environment.holding path text).stored path) = .ok c := by
  simp only [Environment.holding, if_true, load, ofBytes, fromUTF8?_toUTF8, htext, checked, hfault]

/-- A configuration that can be loaded has no fault. -/
theorem Config.fault?_of_load {stored : Stored} {c : Config} (h : load stored = .ok c) :
    c.fault? = none := by
  cases stored with
  | absent => exact nomatch h
  | unreadable => exact nomatch h
  | bytes contents =>
      simp only [load, ofBytes] at h
      split at h
      next => exact nomatch h
      next =>
        split at h
        next => exact nomatch h
        next loaded hloaded =>
          unfold checked at h
          split at h
          next hfault => exact Except.ok.inj h ▸ hfault
          next => exact nomatch h

namespace Command

variable {env : Environment} {path : String} {c : Config}

theorem checked_of_load {stored : Stored} (h : Config.load stored = .ok c) :
    checked c = .ok c := by
  rw [checked, Config.fault?_of_load h]

theorem loadAt_of_load (h : Config.load (env.stored path) = .ok c) : loadAt env path = .ok c := by
  rw [loadAt, h]

/-- The check accepts what can be loaded, and nothing else. -/
theorem exitCode_validate_eq_zero_iff :
    ((validate path).run env).exitCode = 0 ↔ ∃ c, Config.load (env.stored path) = .ok c := by
  show (check env path).exitCode = 0 ↔ _
  unfold check loadAt
  dsimp only
  cases hload : Config.load (env.stored path) with
  | error e =>
      have hexit : (1 : UInt32) ≠ 0 := by decide
      exact ⟨fun h => absurd h hexit, fun ⟨c, hc⟩ => nomatch hc⟩
  | ok c =>
      have hchecked : Except.bind (.ok c) checked = .ok c := checked_of_load hload
      rw [hchecked]
      exact ⟨fun _ => ⟨c, rfl⟩, fun _ => rfl⟩

/-! ### What is started -/

/-- Nothing but the host can keep a server from starting with a configuration that can be
loaded. -/
theorem startUp_of_load (h : Config.load (env.stored path) = .ok c) :
    startUp env path unchanged =
      match HostAddress.read? c.server.host with
      | some host => .ok (c, ⟨host, c.server.port⟩)
      | none => .error "Invalid server address" := by
  have hloaded : loadOrDefault env path = .ok c := loadAt_of_load h
  have hchecked : checked (unchanged.apply c) = .ok c := checked_of_load h
  unfold startUp
  rw [hloaded]
  show (checked (unchanged.apply c)).bind _ = _
  rw [hchecked]
  dsimp only [Except.bind, addressText]
  rw [SocketAddress.read?_append_port]
  cases HostAddress.read? c.server.host with
  | none => rfl
  | some host => rfl

theorem ending_start_of_load (h : Config.load (env.stored path) = .ok c) :
    ((start path unchanged).run env).ending =
      match HostAddress.read? c.server.host with
      | some host => .serving c ⟨host, c.server.port⟩
      | none => .failure "Invalid server address" := by
  unfold run
  dsimp only
  rw [startUp_of_load h]
  cases HostAddress.read? c.server.host with
  | none => rfl
  | some host => rfl

/-- **A configuration that was checked can be served, unless its host is no address.**  If the check
of a configuration succeeds, then the configuration can be loaded and has no fault.  A server that is
started with it is ready to listen at its host and its port if the host is an address, and fails for
the address alone if it is not. -/
theorem start_of_valid (hword : Grammar.isDashed path = false)
    (hvalid : (runWords env ["validate", path]).exitCode = 0) :
    ∃ c, Config.load (env.stored path) = .ok c ∧ c.fault? = none ∧
      (runWords env ["start", "--config", path]).ending =
        match HostAddress.read? c.server.host with
        | some host => .serving c ⟨host, c.server.port⟩
        | none => .failure "Invalid server address" := by
  have hpath := ne_of_exitCode_validate hvalid
  rw [runWords_validate hword hpath] at hvalid
  rw [runWords_start hword hpath]
  obtain ⟨c, hload⟩ := exitCode_validate_eq_zero_iff.1 hvalid
  exact ⟨c, hload, Config.fault?_of_load hload, ending_start_of_load hload⟩

/-- An address of the sixth version is a host if it stands in brackets. -/
theorem start_of_valid_of_brackets :
    let env := Environment.holding "local.toml" "[server]\nhost = \"[::1]\"\n"
    let c : Config := { server := { host := "[::1]" } }
    Grammar.isDashed "local.toml" = false ∧
      (runWords env ["validate", "local.toml"]).exitCode = 0 ∧
      (runWords env ["start", "--config", "local.toml"]).ending =
        .serving c ⟨.v6 [0, 0, 0, 0, 0, 0, 0, 1] 0, 3000⟩ := by
  intro env c
  have htext : Config.ofText? "[server]\nhost = \"[::1]\"\n" = some c := by decide +kernel
  have hload : Config.load (env.stored "local.toml") = .ok c :=
    Config.load_holding "local.toml" htext (by decide)
  have hword : Grammar.isDashed "local.toml" = false := by decide
  have hvalid : (runWords env ["validate", "local.toml"]).exitCode = 0 := by
    rw [runWords_validate hword (by decide)]
    exact exitCode_validate_eq_zero_iff.2 ⟨c, hload⟩
  obtain ⟨c', hload', -, hstart⟩ := start_of_valid hword hvalid
  obtain rfl : c = c' := Except.ok.inj (hload.symm.trans hload')
  have hhost : HostAddress.read? c.server.host = some (.v6 [0, 0, 0, 0, 0, 0, 0, 1] 0) := by decide
  rw [hhost] at hstart
  exact ⟨hword, hvalid, hstart⟩

/-- The name of a host passes the check, and the server does not start. -/
theorem not_started_of_name :
    let env := Environment.holding "local.toml" "[server]\nhost = \"localhost\"\n"
    (runWords env ["validate", "local.toml"]).exitCode = 0 ∧
      (runWords env ["start", "--config", "local.toml"]).exitCode = 1 ∧
      (runWords env ["start", "--config", "local.toml"]).ending =
        .failure "Invalid server address" := by
  intro env
  let c : Config := { server := { host := "localhost" } }
  have htext : Config.ofText? "[server]\nhost = \"localhost\"\n" = some c := by decide +kernel
  have hload : Config.load (env.stored "local.toml") = .ok c :=
    Config.load_holding "local.toml" htext (by decide)
  have hhost : HostAddress.read? c.server.host = none :=
    HostAddress.read?_eq_none_of_mem (c := 'l') (by decide) (by decide) rfl (by decide)
  have hstart := ending_start_of_load hload
  rw [hhost] at hstart
  rw [runWords_validate (by decide) (by decide), runWords_start (by decide) (by decide)]
  refine ⟨exitCode_validate_eq_zero_iff.2 ⟨c, hload⟩, ?_, hstart⟩
  rw [Outcome.exitCode, hstart]

end Command

end StreamRehearsal
