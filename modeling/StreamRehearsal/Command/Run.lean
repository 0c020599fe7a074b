import StreamRehearsal.Command.Basic
import StreamRehearsal.Config.Load
import StreamRehearsal.Net.SocketAddress
import StreamRehearsal.Scenario.Document
import StreamRehearsal.Scenario.Report
import StreamRehearsal.Server.Basic

/-! # Running a command

A command is run in an `Environment`, which tells what is stored where; the `Outcome` is what it
prints and how it ends.

* `Command.run` runs a command; `Command.runWords` reads a command line and runs what it asks for.
* `Command.startUp` does all that starting a server takes before it can listen: it loads the
  configuration, changes and checks the settings, and reads the address. -/

namespace StreamRehearsal

/-- What a command can find out about the world. -/
structure Environment where
  /-- The home directory of the user. -/
  home : String
  /-- What a path leads to. -/
  stored : String → Stored

/-- How a command ends. -/
inductive Ending where
  | success
  /-- The command line cannot be understood. -/
  | misuse
  /-- The command fails, in these words. -/
  | failure (message : String)
  /-- What is asked for is too large to be held. -/
  | crash
  /-- A server is ready to listen. -/
  | serving (config : Config) (address : SocketAddress)

/-- What a command prints and how it ends. -/
structure Outcome where
  output : String
  ending : Ending

namespace Outcome

/-- The exit code of a command that has ended. -/
def exitCode (o : Outcome) : UInt32 :=
  match o.ending with
  | .success => 0
  | .misuse => 2
  | .failure _ => 1
  | .crash => 101
  | .serving _ _ => 0

/-- A command that has done its work. -/
def success (output : String) : Outcome := ⟨output, .success⟩

end Outcome

namespace Command

/-- The words for the version. -/
def versionText : String := "hlsfixture 0.1.0\n"

/-- The words for help. -/
def helpText : String :=
  Lines.text ["Deterministic HLS test server for player playback scenarios", "",
    "Usage: hlsfixture [OPTIONS] <COMMAND>", "",
    "Commands: start, inspect, playlist, validate, version, help"]

/-! ### Configurations -/

/-- The paths at which a configuration is looked for, in this order. -/
def usualPaths (home : String) : List String :=
  ["./config.toml", "./hlsfixture.toml", home ++ "/.config/hlsfixture/config.toml",
    "/etc/hlsfixture/config.toml"]

/-- Whether a path leads somewhere. -/
def leadsSomewhere (env : Environment) (path : String) : Bool :=
  match env.stored path with
  | .absent => false
  | _ => true

/-- Loads the configuration at a path. -/
def loadAt (env : Environment) (path : String) : Except String Config :=
  match Config.load (env.stored path) with
  | .ok c => .ok c
  | .error e => .error (e.message path)

/-- Loads the configuration at a path, or the first one at the usual paths, or the defaults. -/
def loadOrDefault (env : Environment) (path : Option String) : Except String Config :=
  match path with
  | some path => loadAt env path
  | none =>
    match (usualPaths env.home).find? (leadsSomewhere env) with
    | some path => loadAt env path
    | none => .ok {}

/-- The configuration, or the words for its fault. -/
def checked (c : Config) : Except String Config :=
  match c.fault? with
  | none => .ok c
  | some fault => .error fault.message

/-! ### Commands -/

/-- The text of the address that a server is to listen at. -/
def addressText (e : Config.Endpoint) : String := e.host ++ ":" ++ Decimal.text e.port.toNat

/-- All that starting a server takes before it can listen. -/
def startUp (env : Environment) (path : Option String) (o : Overrides) :
    Except String (Config × SocketAddress) := do
  let loaded ← loadOrDefault env path
  let c ← checked (o.apply loaded)
  match SocketAddress.read? (addressText c.server) with
  | some address => return (c, address)
  | none => .error "Invalid server address"

/-- The lines about a configuration without faults. -/
def configLines (c : Config) : List String :=
  ["✓ Configuration is valid",
    "  Server: " ++ addressText c.server,
    "  Media dir: " ++ c.media.dir,
    "  Stub segment: " ++ c.media.stub,
    "  Delay mode: " ++ c.scenario.delayMode.title,
    "  Scenario cache entries: " ++ Decimal.text c.scenario.cacheEntries.toNat,
    "  Ignored files: " ++ ", ".intercalate c.scenario.ignore]

/-- The line that tells which configuration is checked. -/
def validatingLine : Option String → String
  | some path => "Validating config: " ++ Quoted.text path
  | none => "No config file specified, using defaults"

/-- Checks the configuration at a path, or the defaults. -/
def check (env : Environment) (path : Option String) : Outcome :=
  let loaded := match path with
    | some path => loadAt env path
    | none => .ok {}
  match loaded.bind checked with
  | .ok c => Outcome.success (Lines.text (validatingLine path :: configLines c))
  | .error message => ⟨Lines.text [validatingLine path], .failure message⟩

/-- Runs a command. -/
def run (env : Environment) : Command → Outcome
  | start path overrides =>
    match startUp env path overrides with
    | .ok (c, address) => ⟨"", .serving c address⟩
    | .error message => ⟨"", .failure message⟩
  | inspect scenario asJson =>
    Outcome.success
      (if asJson then (Scenario.compile scenario).toJson else Report.text scenario)
  | playlist scenario =>
    match Server.renditionText? (Scenario.compile scenario) with
    | some text => Outcome.success text
    | none => ⟨"", .crash⟩
  | validate path => check env path
  | version => Outcome.success versionText

/-- Reads a command line and runs what it asks for. -/
def runWords (env : Environment) (words : List String) : Outcome :=
  match ofWords words with
  | .ok command => command.run env
  | .error (.notice .version) => Outcome.success versionText
  | .error (.notice .help) => Outcome.success helpText
  | .error .misuse => ⟨"", .misuse⟩

/-- The paths that running a command may ask about. -/
def paths (home : String) : Command → List String
  | start (some path) _ => [path]
  | start none _ => usualPaths home
  | validate (some path) => [path]
  | _ => []

end Command

end StreamRehearsal
