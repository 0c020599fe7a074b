import StreamRehearsal.Text.Cut

/-! # Content types

The content type of a file is told from the extension of its name.

* `ContentType.extension? path` is the text after the last dot of the last name of a path; a name
  without a dot, or with its only dot in front, has none.
* `ContentType.ofPath path` is the content type for that extension. -/

namespace StreamRehearsal.ContentType

/-- The content type of playlists. -/
def playlist : String := "application/x-mpegURL"

/-- The content type of segments. -/
def segment : String := "video/MP2T"

/-- The content type of files that nothing is known about. -/
def unknown : String := "application/octet-stream"

/-- The last name of a path. -/
def lastName (cs : List Char) : List Char :=
  match Cut.cutLast? '/' cs with
  | some (_, name) => name
  | none => cs

/-- The extension of the last name of a path. -/
def extension? (path : String) : Option String :=
  match Cut.cutLast? '.' (lastName path.toList) with
  | some (stem, extension) => if stem = [] then none else some (String.ofList extension)
  | none => none

/-- The content type of files with this extension; extensions are case sensitive. -/
def ofExtension (extension : String) : String :=
  if extension = "m3u8" then playlist
  else if extension = "ts" then segment
  else if extension = "mp4" ∨ extension = "m4s" then "video/mp4"
  else if extension = "aac" then "audio/aac"
  else if extension = "vtt" then "text/vtt"
  else if extension = "html" then "text/html"
  else if extension = "js" then "application/javascript"
  else if extension = "json" then "application/json"
  else unknown

/-- The content type of the file at a path. -/
def ofPath (path : String) : String :=
  match extension? path with
  | some extension => ofExtension extension
  | none => unknown

end StreamRehearsal.ContentType
