import StreamRehearsal.Scenario.Treatment
import StreamRehearsal.Storage.Tree

/-! # Failures

A request that the server cannot answer is a failure.  The failures that a scenario asks for are
none of these: they are answers like any other.

* `Failure` lists the causes, `Failure.status` the status code of each and `Failure.message` its
  words. -/

namespace StreamRehearsal

/-- Why a request cannot be answered. -/
inductive Failure where
  /-- The segment that is asked for has no index. -/
  | invalidSegment (request : InvalidSegment)
  /-- The file that is asked for is not there. -/
  | notFound (path : String)
  /-- The stub segment cannot be opened. -/
  | stubUnavailable (path cause : String)
  /-- A file cannot be opened for another cause. -/
  | storage (cause : String)
  deriving DecidableEq, Repr

namespace Failure

/-- The status code of a failure. -/
def status : Failure → UInt16
  | invalidSegment _ => 400
  | notFound _ => 404
  | stubUnavailable _ _ => 500
  | storage _ => 500

/-- The words for a failure. -/
def message : Failure → String
  | invalidSegment request => request.message
  | notFound path => "File not found: " ++ Quoted.text path
  | stubUnavailable path cause =>
    "Stub segment unavailable at " ++ Quoted.text path ++ ": " ++ cause
  | storage cause => "IO error: " ++ cause

end Failure

end StreamRehearsal
