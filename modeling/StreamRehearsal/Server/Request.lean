/-! # Requests

A request has a method, the path of its address, and the time at which it is made.

* `Request.pathOf uri` is the path of an address as it is written: without the query and the
  fragment, and without decoding anything.  Of an absolute address it is the part after the
  authority, or `/` if there is none. -/

namespace StreamRehearsal

/-- What a client asks for. -/
structure Request where
  /-- The method; methods are case sensitive. -/
  method : String
  path : String
  /-- When it is made, on the clock of the server. -/
  time : Nat := 0
  deriving DecidableEq, Repr

namespace Request

/-- The characters of an address before its query and its fragment. -/
def withoutQuery (uri : List Char) : List Char := uri.takeWhile fun c => c != '?' && c != '#'

/-- The characters after the first `://`, if there are any. -/
def afterScheme? : List Char → Option (List Char)
  | [] => none
  | ':' :: '/' :: '/' :: rest => some rest
  | _ :: rest => afterScheme? rest

/-- The path of an address, as characters. -/
def pathChars (uri : List Char) : List Char :=
  let cs := withoutQuery uri
  if cs.head? = some '/' ∨ cs = ['*'] then cs
  else
    match afterScheme? cs with
    | some rest =>
      let path := rest.dropWhile (· != '/')
      if path = [] then ['/'] else path
    | none => []

/-- The path of an address. -/
def pathOf (uri : String) : String := String.ofList (pathChars uri.toList)

/-- The request for an address, made when the server starts. -/
def ofUri (method uri : String) : Request := { method := method, path := pathOf uri }

end Request

end StreamRehearsal
