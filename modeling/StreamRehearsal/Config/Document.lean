import StreamRehearsal.Config.Basic
import StreamRehearsal.Document.Record

/-! # Configurations in documents

A configuration is read from a document: a record of three sections, each a record of its own.

* `Config.ofDocument? dialect d` reads a configuration.  A section or field that is absent has its
  default, and unknown fields are passed over.
* `Config.toDocument c` writes every field of a configuration. -/

namespace StreamRehearsal

namespace DelayMode

/-- The mode that a document names. -/
def ofDocument? (dialect : Dialect) (d : Document) : Option DelayMode :=
  (d.choice? dialect).bind ofName?

end DelayMode

namespace Document

/-- Reads a pair of 32-bit numbers from a list of two items. -/
def pair32? (dialect : Dialect) : Document → Option (UInt32 × UInt32)
  | list (a :: b :: rest) =>
    if dialect.allowsSurplus ∨ rest.isEmpty then
      match a.word32?, b.word32? with
      | some a, some b => some (a, b)
      | _, _ => none
    else none
  | _ => none

end Document

namespace Config

/-- Reads the section on where the server listens. -/
def Endpoint.ofDocument? (dialect : Dialect) (d : Document) : Option Endpoint :=
  let absent : Endpoint := {}
  match d.record? dialect ["host", "port"] 0 with
  | some fs => do
    let host ← fs.orElse "host" absent.host Document.text?
    let port ← fs.orElse "port" absent.port Document.word16?
    return { host := host, port := port }
  | none => none

/-- Reads the section on what the server serves. -/
def Media.ofDocument? (dialect : Dialect) (d : Document) : Option Media :=
  let absent : Media := {}
  match d.record? dialect ["dir", "stub_segment", "bandwidth", "resolution", "codecs"] 0 with
  | some fs => do
    let dir ← fs.orElse "dir" absent.dir Document.text?
    let stub ← fs.orElse "stub_segment" absent.stub Document.text?
    let bandwidth ← fs.orElse "bandwidth" absent.bandwidth Document.word32?
    let resolution ← fs.orElse "resolution" absent.resolution
      (Document.optional? (Document.pair32? dialect))
    let codecs ← fs.orElse "codecs" absent.codecs (Document.optional? Document.text?)
    return { dir := dir, stub := stub, bandwidth := bandwidth, resolution := resolution,
             codecs := codecs }
  | none => none

/-- Reads the section on how the server rehearses scenarios. -/
def Rehearsal.ofDocument? (dialect : Dialect) (d : Document) : Option Rehearsal :=
  let absent : Rehearsal := {}
  match d.record? dialect ["cache_entries", "delay_mode", "ignore"] 0 with
  | some fs => do
    let cacheEntries ← fs.orElse "cache_entries" absent.cacheEntries Document.count?
    let delayMode ← fs.orElse "delay_mode" absent.delayMode (DelayMode.ofDocument? dialect)
    let ignore ← fs.orElse "ignore" absent.ignore (Document.listOf? Document.text?)
    return { cacheEntries := cacheEntries, delayMode := delayMode, ignore := ignore }
  | none => none

/-- Reads a configuration. -/
def ofDocument? (dialect : Dialect) (d : Document) : Option Config :=
  match d.record? dialect ["server", "media", "scenario"] 0 with
  | some fs => do
    let server ← fs.orElse "server" {} (Endpoint.ofDocument? dialect)
    let media ← fs.orElse "media" {} (Media.ofDocument? dialect)
    let scenario ← fs.orElse "scenario" {} (Rehearsal.ofDocument? dialect)
    return { server := server, media := media, scenario := scenario }
  | none => none

/-! ### Writing -/

/-- The section on where the server listens, as a document. -/
def Endpoint.toDocument (e : Endpoint) : Document :=
  .table [("host", .text e.host), ("port", .natural e.port.toNat)]

/-- A resolution as a document. -/
def resolutionDocument : Option (UInt32 × UInt32) → Document
  | some (width, height) => .list [.natural width.toNat, .natural height.toNat]
  | none => .null

/-- Codecs as a document. -/
def codecsDocument : Option String → Document
  | some codecs => .text codecs
  | none => .null

/-- The section on what the server serves, as a document. -/
def Media.toDocument (m : Media) : Document :=
  .table [("dir", .text m.dir), ("stub_segment", .text m.stub),
    ("bandwidth", .natural m.bandwidth.toNat), ("resolution", resolutionDocument m.resolution),
    ("codecs", codecsDocument m.codecs)]

/-- The section on how the server rehearses scenarios, as a document. -/
def Rehearsal.toDocument (r : Rehearsal) : Document :=
  .table [("cache_entries", .natural r.cacheEntries.toNat), ("delay_mode", .text r.delayMode.name),
    ("ignore", .list (r.ignore.map Document.text))]

/-- A configuration as a document. -/
def toDocument (c : Config) : Document :=
  .table [("server", c.server.toDocument), ("media", c.media.toDocument),
    ("scenario", c.scenario.toDocument)]

end Config

end StreamRehearsal
