import StreamRehearsal.Command.Grammar
import StreamRehearsal.Config.Basic
import StreamRehearsal.Text.Decimal

/-! # Commands

What a command line asks for.

* `Command.ofWords words` reads a command line: options for all commands, the name of a command,
  and its own options and operands.
* The options for all commands may stand before the name and after it; the ones after it win.  The
  command that checks a configuration takes its path as an operand and knows no option for it. -/

namespace StreamRehearsal

/-- Settings that a command line changes. -/
structure Overrides where
  host : Option String
  port : Option UInt16
  mediaDir : Option String
  delayMode : Option DelayMode
  deriving DecidableEq, Repr

namespace Overrides

/-- The configuration with the changed settings. -/
def apply (o : Overrides) (c : Config) : Config where
  server := { host := o.host.getD c.server.host, port := o.port.getD c.server.port }
  media := { c.media with dir := o.mediaDir.getD c.media.dir }
  scenario := { c.scenario with delayMode := o.delayMode.getD c.scenario.delayMode }

end Overrides

/-- What a command line asks for. -/
inductive Command where
  /-- Start a server, with the configuration at a path or at one of the usual ones. -/
  | start (config : Option String) (overrides : Overrides)
  /-- Report how a scenario string is understood. -/
  | inspect (scenario : String) (asJson : Bool)
  /-- Print the rendition playlist of a scenario. -/
  | playlist (scenario : String)
  /-- Check the configuration at a path, or the defaults. -/
  | validate (config : Option String)
  /-- Print the version. -/
  | version
  deriving DecidableEq, Repr

namespace Command

/-! ### Forms of values -/

/-- Any word. -/
def isWord (_ : String) : Bool := true

/-- Paths are not empty. -/
def isPath (word : String) : Bool := word != ""

/-- The port that a word stands for: a number that may have a sign. -/
def port? (word : String) : Option UInt16 :=
  match word.toList with
  | '-' :: cs => (Decimal.read? 0 cs).map UInt16.ofNat
  | cs => (Decimal.read? (UInt16.size - 1) (Cut.dropLeading '+' cs)).map UInt16.ofNat

/-- Whether a word stands for a port. -/
def isPort (word : String) : Bool := (port? word).isSome

/-- Whether a word names a delay mode. -/
def isMode (word : String) : Bool := (DelayMode.ofName? word).isSome

/-! ### Grammars -/

/-- The option that asks for help. -/
def helpRule : OptionRule := ⟨"help", some 'h', .notice .help⟩

/-- The option for the path of a configuration. -/
def configRule : OptionRule := ⟨"config", some 'c', .valued isPath⟩

/-- The option for a more detailed log. -/
def verboseRule : OptionRule := ⟨"verbose", some 'v', .switch⟩

/-- The grammar up to the name of a command. -/
def outerGrammar : Grammar where
  options := [configRule, verboseRule, helpRule, ⟨"version", some 'V', .notice .version⟩]
  operandLimit := 0
  acceptsOperand := isWord
  subcommands := ["start", "inspect", "playlist", "validate", "version", "help"]

/-- The grammar after `start`. -/
def startGrammar : Grammar where
  options := [⟨"host", none, .valued isWord⟩, ⟨"port", some 'p', .valued isPort⟩,
    ⟨"media-dir", none, .valued isPath⟩, ⟨"delay-mode", none, .valued isMode⟩, configRule,
    verboseRule, helpRule]
  operandLimit := 0
  acceptsOperand := isWord
  subcommands := []

/-- The grammar after `inspect`. -/
def inspectGrammar : Grammar where
  options := [⟨"json", none, .switch⟩, configRule, verboseRule, helpRule]
  operandLimit := 1
  acceptsOperand := isWord
  subcommands := []

/-- The grammar after `playlist`. -/
def playlistGrammar : Grammar where
  options := [configRule, verboseRule, helpRule]
  operandLimit := 1
  acceptsOperand := isWord
  subcommands := []

/-- The grammar after `validate`. -/
def validateGrammar : Grammar where
  options := [verboseRule, helpRule]
  operandLimit := 1
  acceptsOperand := isPath
  subcommands := []

/-- The grammar after `version`. -/
def versionGrammar : Grammar where
  options := [configRule, verboseRule, helpRule]
  operandLimit := 0
  acceptsOperand := isWord
  subcommands := []

/-! ### Reading -/

/-- The words of a command that has no commands of its own. -/
def scanInner (grammar : Grammar) (words : List String) : Except Stop Given :=
  (grammar.scan words).map Prod.fst

/-- The only operand of a command. -/
def operand (g : Given) : Except Stop String :=
  match g.operands with
  | [word] => .ok word
  | _ => .error .misuse

/-- The settings that a command line changes. -/
def overrides (g : Given) : Overrides where
  host := g.value? "host"
  port := (g.value? "port").bind port?
  mediaDir := g.value? "media-dir"
  delayMode := (g.value? "delay-mode").bind DelayMode.ofName?

/-- Help may be asked for about one command. -/
def helpStop (words : List String) : Stop :=
  match words with
  | [] => .notice .help
  | [word] => if outerGrammar.subcommands.contains word then .notice .help else .misuse
  | _ => .misuse

/-- The command with this name and these words after it; the path of a configuration may have been
given before. -/
def ofName (config : Option String) (name : String) (words : List String) :
    Except Stop Command :=
  if name = "start" then
    (scanInner startGrammar words).map fun g => start (g.value? "config" <|> config) (overrides g)
  else if name = "inspect" then do
    let g ← scanInner inspectGrammar words
    let scenario ← operand g
    return inspect scenario (g.has "json")
  else if name = "playlist" then do
    let g ← scanInner playlistGrammar words
    return playlist (← operand g)
  else if name = "validate" then
    (scanInner validateGrammar words).map fun g => validate (g.operands.head? <|> config)
  else if name = "version" then
    (scanInner versionGrammar words).map fun _ => version
  else if name = "help" then .error (helpStop words)
  else .error .misuse

/-- What a command line asks for. -/
def ofWords (words : List String) : Except Stop Command := do
  let (g, rest) ← outerGrammar.scan words
  match rest with
  | some (name, words) => ofName (g.value? "config") name words
  | none => .error .misuse

end Command

end StreamRehearsal
