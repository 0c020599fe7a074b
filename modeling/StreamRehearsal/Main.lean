import StreamRehearsal.Command.Run

/-! # The program

Reads what the command line asks about from the file system, runs the command on it, and prints
the outcome.  A server that is ready to listen ends here: this program opens no sockets. -/

namespace StreamRehearsal

/-- What a path leads to in the file system. -/
def storedAt (path : String) : IO Stored := do
  try
    return .bytes (← IO.FS.readBinFile path)
  catch
    | .noFileOrDirectory .. => return .absent
    | _ => return .unreadable

/-- The environment in which these paths, and no others, lead somewhere. -/
def environmentOf (home : String) (paths : List String) : IO Environment := do
  let found ← paths.mapM fun path => return (path, ← storedAt path)
  return ⟨home, fun path => ((found.find? fun f => f.1 == path).map Prod.snd).getD .absent⟩

/-- The paths that a command line may ask about. -/
def pathsOf (home : String) (words : List String) : List String :=
  match Command.ofWords words with
  | .ok command => command.paths home
  | .error _ => []

end StreamRehearsal

open StreamRehearsal in
def main (words : List String) : IO UInt32 := do
  let home := (← IO.getEnv "HOME").getD "~"
  let environment ← environmentOf home (pathsOf home words)
  let outcome := Command.runWords environment words
  IO.print outcome.output
  match outcome.ending with
  | .success => pure ()
  | .misuse => IO.eprintln "error: the command line cannot be understood; try '--help'"
  | .failure message => IO.eprintln ("Error: " ++ message)
  | .crash => IO.eprintln "error: capacity overflow"
  | .serving c _ => IO.eprintln ("ready to listen at " ++ Command.addressText c.server)
  return outcome.exitCode
