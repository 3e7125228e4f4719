/-!
Where a request goes. A target is a path, perhaps with a query behind a question mark; a scheme
and an authority may stand in front, and a fragment behind does not count.
-/

namespace TaskPipeline.Http

/-- A path and a query as they were sent. -/
structure Target where
  path : String
  query : String
  deriving DecidableEq, Repr

namespace Target

/-- A character of the name of a scheme. -/
def isSchemeChar (c : Char) : Bool := c.isAlphanum || c == '+' || c == '-' || c == '.'

/-- What follows a scheme; none if no scheme stands in front. -/
def afterScheme? (cs : List Char) : Option (List Char) :=
  match cs.dropWhile isSchemeChar with
  | ':' :: '/' :: '/' :: rest => some rest
  | _ => none

def endsAuthority (c : Char) : Bool := c == '/' || c == '?'

/-- The target of a path and a query in one. Behind an authority an empty path is the root. -/
def ofPathAndQuery (cs : List Char) : Target :=
  let path := cs.takeWhile (· != '?')
  { path := if path.isEmpty then "/" else String.ofList path
    query := String.ofList ((cs.dropWhile (· != '?')).drop 1) }

/-- The target that a text gives. A text without a path is the name of an authority. -/
def ofText (s : String) : Target :=
  let cs := s.toList.takeWhile (· != '#')
  match cs with
  | '/' :: _ => ofPathAndQuery cs
  | _ =>
    match afterScheme? cs with
    | some rest => ofPathAndQuery (rest.dropWhile (!endsAuthority ·))
    | none => { path := "", query := "" }

end Target

end TaskPipeline.Http
