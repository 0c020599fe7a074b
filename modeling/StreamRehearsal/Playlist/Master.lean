import StreamRehearsal.Text.Decimal
import StreamRehearsal.Text.Lines

/-! # Master playlists

A master playlist lists the variants of a stream, each with what a player needs to choose one.

* `StreamVariant.rendition` is the variant that is found at `rendition.m3u8`.
* `MasterPlaylist.lines` are the lines of a playlist's text and `MasterPlaylist.text` is the
  text. -/

namespace StreamRehearsal

/-- One variant of a stream. -/
structure StreamVariant where
  /-- The address of the variant's playlist. -/
  uri : String
  /-- Bits per second. -/
  bandwidth : UInt32
  /-- The width and height of the picture. -/
  resolution : Option (UInt32 × UInt32)
  /-- The codecs in use. -/
  codecs : Option String
  deriving DecidableEq, Repr

/-- The file name of the rendition playlist. -/
def renditionName : String := "rendition.m3u8"

namespace StreamVariant

/-- The variant at the rendition playlist, without further attributes. -/
def rendition (bandwidth : UInt32) : StreamVariant := ⟨renditionName, bandwidth, none, none⟩

/-- The attribute for a resolution. -/
def resolutionPart : Option (UInt32 × UInt32) → String
  | some (width, height) =>
    ",RESOLUTION=" ++ Decimal.text width.toNat ++ "x" ++ Decimal.text height.toNat
  | none => ""

/-- The attribute for codecs. -/
def codecsPart : Option String → String
  | some codecs => ",CODECS=\"" ++ codecs ++ "\""
  | none => ""

/-- The lines about one variant. -/
def lines (v : StreamVariant) : List String :=
  ["#EXT-X-STREAM-INF:BANDWIDTH=" ++ Decimal.text v.bandwidth.toNat ++
    resolutionPart v.resolution ++ codecsPart v.codecs, v.uri]

end StreamVariant

/-- A playlist of the variants of a stream. -/
structure MasterPlaylist where
  variants : List StreamVariant
  deriving DecidableEq, Repr

namespace MasterPlaylist

/-- The playlist without variants. -/
def empty : MasterPlaylist := ⟨[]⟩

/-- The playlist with one more variant at the end. -/
def add (p : MasterPlaylist) (v : StreamVariant) : MasterPlaylist := ⟨p.variants ++ [v]⟩

/-- The lines of a master playlist. -/
def lines (p : MasterPlaylist) : List String :=
  ["#EXTM3U", "#EXT-X-VERSION:3"] ++ p.variants.flatMap StreamVariant.lines

/-- The text of a master playlist. -/
def text (p : MasterPlaylist) : String := Lines.text p.lines

end MasterPlaylist

end StreamRehearsal
