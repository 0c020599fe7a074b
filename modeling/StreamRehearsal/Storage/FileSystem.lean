import StreamRehearsal.Storage.Tree

/-! # File systems

A program opens files by their paths, and these may lead anywhere in the file system.  It is assumed
that the program may open everything there is, and that nothing changes while it is running.

* A `FileSystem` is a tree of directories, and the place in it where a program is running.
* `FileSystem.find fs path` is what is opened under a path.  A path that starts with a slash is
  followed from the root, any other from the place where the program is running
  (`FileSystem.route`).
* `FileSystem.pathIn dir name` is the path of a name in a directory. -/

namespace StreamRehearsal

/-- The directories and files that a program can open. -/
structure FileSystem where
  root : Directory
  /-- The names that lead from the root to the directory in which the program is running. -/
  working : List String

namespace FileSystem

/-- The longest path that can be opened, in bytes. -/
def longestPath : Nat := 4095

/-- The names that a path leads along, from the root on. -/
def route (fs : FileSystem) (path : String) : List String :=
  if path.toList.head? = some '/' then Directory.names path
  else fs.working ++ Directory.names path

/-- What is opened under a path. -/
def find (fs : FileSystem) (path : String) : Except OpenFault Node :=
  if path.toList.contains '\x00' then .error .nullCharacter
  else if longestPath < path.utf8ByteSize then .error .nameTooLong
  else if path = "" then .error .missing
  else Directory.walk (fs.route path) fs.root []

/-- The path of a name in a directory; a name that starts with a slash is a path of its own. -/
def pathIn (dir name : String) : String :=
  if name.toList.head? = some '/' ∨ dir = "" then name
  else if dir.toList.getLast? = some '/' then dir ++ name
  else dir ++ "/" ++ name

end FileSystem

end StreamRehearsal
