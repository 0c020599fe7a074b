import StreamRehearsal.Playlist.Master
import StreamRehearsal.Text.Cut

/-! # Targets

The path of a request is a scenario string and a file name: `/s5-p30-r10/7.ts`.

* `Target.ofPath path ignore` drops the slashes at the end of the path and cuts it at the last
  slash that is left; the scenario string of a path with one slash is `/`.
* `Target.Kind.ofName` says what a file name asks for.  The names on the ignore list come first,
  then segments, which have any stem and the extension `ts`, then the two playlists. -/

namespace StreamRehearsal

/-- The file name of the top-level playlist. -/
def mediaName : String := "media.m3u8"

/-- What a file name asks for. -/
inductive Target.Kind where
  /-- A browser asks on its own. -/
  | ignored
  | mediaPlaylist
  | renditionPlaylist
  | segment (stem : String)
  | static (name : String)
  deriving DecidableEq, Repr

/-- What the path of a request asks for. -/
structure Target where
  /-- The scenario string. -/
  scenario : String
  kind : Target.Kind
  deriving DecidableEq, Repr

namespace Target

/-- The stem of a segment's file name. -/
def stem? (name : List Char) : Option (List Char) :=
  match Cut.cutLast? '.' name with
  | some (stem, extension) => if extension = ['t', 's'] ∧ stem ≠ [] then some stem else none
  | none => none

/-- What a file name asks for. -/
def Kind.ofName (name : String) (ignore : List String) : Kind :=
  if ignore.contains name then .ignored
  else
    match stem? name.toList with
    | some stem => .segment (String.ofList stem)
    | none =>
      if name = mediaName then .mediaPlaylist
      else if name = renditionName then .renditionPlaylist
      else .static name

/-- The scenario string and the file name of a path. -/
def split (path : String) : String × String :=
  let cs := Cut.dropTrailing '/' path.toList
  match Cut.cutLast? '/' cs with
  | some ([], name) => ("/", String.ofList name)
  | some (scenario, name) => (String.ofList scenario, String.ofList name)
  | none => ("", String.ofList cs)

/-- What the path of a request asks for. -/
def ofPath (path : String) (ignore : List String) : Target :=
  let (scenario, name) := split path
  ⟨scenario, Kind.ofName name ignore⟩

end Target

end StreamRehearsal
