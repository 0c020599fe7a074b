import StreamRehearsal.Config.Document
import StreamRehearsal.Toml.Reader

/-! # Loading a configuration

A configuration file is read, parsed and checked, in this order.

* `Config.ofBytes bytes` is the configuration that the bytes of a file spell, and `LoadError` says
  which of the three steps failed.
* `Stored` is what a path leads to, and `Config.load` loads the configuration there. -/

namespace StreamRehearsal

/-- Why a configuration cannot be loaded. -/
inductive LoadError where
  /-- The file is not there, or its bytes are no text. -/
  | unreadable
  /-- The text spells no configuration. -/
  | unparsable
  /-- The configuration has a fault. -/
  | invalid (fault : Config.Fault)
  deriving DecidableEq, Repr

/-- The words for the failure to load the configuration at a path. -/
def LoadError.message (path : String) : LoadError → String
  | unreadable => "Failed to read config file: " ++ Quoted.text path
  | unparsable => "Failed to parse config file: " ++ Quoted.text path
  | invalid fault => fault.message

/-- What a path leads to. -/
inductive Stored where
  | absent
  /-- Something that is not a file. -/
  | unreadable
  | bytes (contents : ByteArray)

namespace Config

/-- The configuration that a text spells. -/
def ofText? (text : String) : Option Config := (Toml.read text).bind (ofDocument? Toml.dialect)

/-- The configuration, unless it has a fault. -/
def checked (c : Config) : Except LoadError Config :=
  match c.fault? with
  | none => .ok c
  | some fault => .error (.invalid fault)

/-- The configuration that the bytes of a file spell. -/
def ofBytes (bytes : ByteArray) : Except LoadError Config :=
  match String.fromUTF8? bytes with
  | none => .error .unreadable
  | some text =>
    match ofText? text with
    | none => .error .unparsable
    | some c => c.checked

/-- The configuration that is stored somewhere. -/
def load : Stored → Except LoadError Config
  | .absent => .error .unreadable
  | .unreadable => .error .unreadable
  | .bytes contents => ofBytes contents

end Config

end StreamRehearsal
