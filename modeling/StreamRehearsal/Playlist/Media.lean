import StreamRehearsal.Count
import StreamRehearsal.Text.Decimal
import StreamRehearsal.Text.Lines

/-! # Media playlists

A media playlist lists the segments of one rendition, each with its duration and its address.

* `MediaPlaylist.ofCount` lists the segments `0.ts`, `1.ts`, … of one length, however many they are.
* `MediaPlaylist.lines` are the lines of its text and `MediaPlaylist.text` is the text.
* A playlist is held in one buffer and so is its text, and a buffer has `largestBuffer` bytes at
  most.  `MediaPlaylist.ofCount?` makes the playlist and `MediaPlaylist.render?` the text as far as
  the buffers go.  It is assumed that there is memory for every buffer that is not too large, and
  that a buffer is made no larger than what it is to hold. -/

namespace StreamRehearsal

/-- One segment of a media playlist. -/
structure MediaEntry where
  /-- The duration in whole seconds. -/
  duration : UInt64
  /-- The address of the segment, relative to the playlist. -/
  uri : String
  deriving DecidableEq, Repr

/-- A playlist of the segments of one rendition. -/
structure MediaPlaylist where
  /-- An upper bound on the duration of a segment, in seconds. -/
  targetDuration : UInt64
  entries : List MediaEntry
  deriving DecidableEq, Repr

namespace MediaPlaylist

/-- The file name of the segment with this index. -/
def segmentName (index : Nat) : String := Decimal.text index ++ ".ts"

/-- The playlist of `count` segments of `length` seconds each, whether or not it can be held.  The
target duration is one second longer, to leave players room for rounding. -/
def ofCount (count length : UInt64) : MediaPlaylist where
  targetDuration := clip (length.toNat + 1)
  entries := (List.range count.toNat).map fun index => ⟨length, segmentName index⟩

/-- The lines about one segment. -/
def entryLines (e : MediaEntry) : List String :=
  ["#EXTINF:" ++ Decimal.text e.duration.toNat ++ ",", e.uri]

/-- The lines of a media playlist. -/
def lines (p : MediaPlaylist) : List String :=
  ["#EXTM3U", "#EXT-X-VERSION:3",
    "#EXT-X-TARGETDURATION:" ++ Decimal.text p.targetDuration.toNat,
    "#EXT-X-PLAYLIST-TYPE:VOD"] ++
    p.entries.flatMap entryLines ++ ["#EXT-X-ENDLIST"]

/-- The text of a media playlist, whether or not it can be held. -/
def text (p : MediaPlaylist) : String := Lines.text p.lines

/-! ### What can be held -/

/-- The most bytes of a buffer: one less than 2⁶³. -/
def largestBuffer : Nat := 9223372036854775807

/-- The bytes that an entry takes up in the buffer of its playlist: eight for the duration, and eight
each for the place, the room and the length of the address. -/
def entrySize : Nat := 32

/-- Makes the playlist of `count` segments of `length` seconds each.  There is none if the entries
are too many for a buffer. -/
def ofCount? (count length : UInt64) : Option MediaPlaylist :=
  if count.toNat * entrySize ≤ largestBuffer then some (ofCount count length) else none

/-- Makes the text of a media playlist.  There is none if it is too long for a buffer. -/
def render? (p : MediaPlaylist) : Option String :=
  let text := p.text
  if text.utf8ByteSize ≤ largestBuffer then some text else none

end MediaPlaylist

end StreamRehearsal
