import StreamRehearsal.Config.Document

/-! # Partial configurations

Most documents say only part of a configuration.

* `Fields.Gives` says which value a field of a record is given, if any, and `Document.Lays` how the
  fields of a record are laid out in a document.
* `Config.Partial` holds the sections that are present and, of each, the fields that are given;
  `Config.Partial.IsIn` says that this is what a document gives, and nothing else that is known.
* `Config.Partial.laidOver` puts what is given in the place of what a configuration has. -/

namespace StreamRehearsal

/-- The field with this name is given a value if it is there once and its document says the value;
it is given none if it is not there. -/
def Fields.Gives {α : Type} (fs : Fields) (name : String) (means : α → Document → Prop) :
    Option α → Prop
  | some a => ∃ before d after, fs = before ++ (name, d) :: after ∧ means a d ∧
      ∀ f ∈ before ++ after, f.1 ≠ name
  | none => ∀ f ∈ fs, f.1 ≠ name

/-! ### Documents and what they say -/

namespace Document

/-- The fields of a record are laid out in a document: under their names, or in the order of the
names, where only some dialects allow more of them than there are names. -/
inductive Lays (dialect : Dialect) (names : List String) : Document → Fields → Prop
  | table (fs : Fields) : Lays dialect names (.table fs) fs
  | list (items : List Document)
      (h : dialect.allowsSurplus = true ∨ items.length ≤ names.length) :
      Lays dialect names (.list items) (names.zip items)

/-- A document says a pair of numbers. -/
def IsPair (dialect : Dialect) (pair : UInt32 × UInt32) (d : Document) : Prop :=
  ∃ rest, d = list (natural pair.1.toNat :: natural pair.2.toNat :: rest) ∧
    (dialect.allowsSurplus = true ∨ rest = [])

/-- A document says a value, or is null if there is none. -/
def IsOptional {α : Type} (means : α → Document → Prop) : Option α → Document → Prop
  | some a, d => means a d
  | none, d => d = null

end Document

/-- A document names a mode: by itself, or beside something that says nothing. -/
def DelayMode.IsIn (dialect : Dialect) (m : DelayMode) (d : Document) : Prop :=
  d = .text m.name ∨ ∃ e, d = .table [(m.name, e)] ∧ dialect.isNothing e = true

namespace Config

/-! ### Where the server listens -/

/-- The fields that a section on where the server listens gives. -/
structure Endpoint.Partial where
  host : Option String := none
  port : Option UInt16 := none

namespace Endpoint.Partial

/-- What is given, in the place of what a section has. -/
def laidOver (p : Partial) (e : Endpoint) : Endpoint where
  host := p.host.getD e.host
  port := p.port.getD e.port

/-- The fields of a document give this. -/
structure Given (p : Partial) (fs : Fields) : Prop where
  host : fs.Gives "host" (fun s d => d = .text s) p.host
  port : fs.Gives "port" (fun n d => d = .natural n.toNat) p.port

/-- A document gives this. -/
def IsIn (dialect : Dialect) (p : Partial) (d : Document) : Prop :=
  ∃ fs, d.Lays dialect ["host", "port"] fs ∧ p.Given fs

end Endpoint.Partial

/-! ### What the server serves -/

/-- The fields that a section on what the server serves gives.  The last two may be given to be
absent. -/
structure Media.Partial where
  dir : Option String := none
  stub : Option String := none
  bandwidth : Option UInt32 := none
  resolution : Option (Option (UInt32 × UInt32)) := none
  codecs : Option (Option String) := none

namespace Media.Partial

/-- What is given, in the place of what a section has. -/
def laidOver (p : Partial) (m : Media) : Media where
  dir := p.dir.getD m.dir
  stub := p.stub.getD m.stub
  bandwidth := p.bandwidth.getD m.bandwidth
  resolution := p.resolution.getD m.resolution
  codecs := p.codecs.getD m.codecs

/-- The fields of a document give this. -/
structure Given (dialect : Dialect) (p : Partial) (fs : Fields) : Prop where
  dir : fs.Gives "dir" (fun s d => d = .text s) p.dir
  stub : fs.Gives "stub_segment" (fun s d => d = .text s) p.stub
  bandwidth : fs.Gives "bandwidth" (fun n d => d = .natural n.toNat) p.bandwidth
  resolution : fs.Gives "resolution" (Document.IsOptional (Document.IsPair dialect)) p.resolution
  codecs : fs.Gives "codecs" (Document.IsOptional fun s d => d = .text s) p.codecs

/-- A document gives this. -/
def IsIn (dialect : Dialect) (p : Partial) (d : Document) : Prop :=
  ∃ fs, d.Lays dialect ["dir", "stub_segment", "bandwidth", "resolution", "codecs"] fs ∧
    p.Given dialect fs

end Media.Partial

/-! ### How the server rehearses scenarios -/

/-- The fields that a section on how the server rehearses scenarios gives. -/
structure Rehearsal.Partial where
  cacheEntries : Option UInt64 := none
  delayMode : Option DelayMode := none
  ignore : Option (List String) := none

namespace Rehearsal.Partial

/-- What is given, in the place of what a section has. -/
def laidOver (p : Partial) (r : Rehearsal) : Rehearsal where
  cacheEntries := p.cacheEntries.getD r.cacheEntries
  delayMode := p.delayMode.getD r.delayMode
  ignore := p.ignore.getD r.ignore

/-- The fields of a document give this. -/
structure Given (dialect : Dialect) (p : Partial) (fs : Fields) : Prop where
  cacheEntries : fs.Gives "cache_entries" (fun n d => d = .natural n.toNat) p.cacheEntries
  delayMode : fs.Gives "delay_mode" (DelayMode.IsIn dialect) p.delayMode
  ignore : fs.Gives "ignore" (fun names d => d = .list (names.map Document.text)) p.ignore

/-- A document gives this. -/
def IsIn (dialect : Dialect) (p : Partial) (d : Document) : Prop :=
  ∃ fs, d.Lays dialect ["cache_entries", "delay_mode", "ignore"] fs ∧ p.Given dialect fs

end Rehearsal.Partial

/-! ### Configurations -/

/-- The sections that a document has, and what each of them gives. -/
structure Partial where
  server : Option Endpoint.Partial := none
  media : Option Media.Partial := none
  scenario : Option Rehearsal.Partial := none

namespace Partial

/-- What is given, in the place of what a configuration has.  An absent section gives nothing. -/
def laidOver (p : Partial) (c : Config) : Config where
  server := p.server.elim c.server fun s => s.laidOver c.server
  media := p.media.elim c.media fun s => s.laidOver c.media
  scenario := p.scenario.elim c.scenario fun s => s.laidOver c.scenario

/-- The sections of a document give this. -/
structure Given (dialect : Dialect) (p : Partial) (fs : Fields) : Prop where
  server : fs.Gives "server" (Endpoint.Partial.IsIn dialect) p.server
  media : fs.Gives "media" (Media.Partial.IsIn dialect) p.media
  scenario : fs.Gives "scenario" (Rehearsal.Partial.IsIn dialect) p.scenario

/-- A document gives this. -/
def IsIn (dialect : Dialect) (p : Partial) (d : Document) : Prop :=
  ∃ fs, d.Lays dialect ["server", "media", "scenario"] fs ∧ p.Given dialect fs

end Partial

end Config

end StreamRehearsal
