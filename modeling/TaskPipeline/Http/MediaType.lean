/-!
Media types: which content types announce JSON. A media type is a type and a subtype, perhaps with
a suffix after a plus, perhaps with parameters.
-/

namespace TaskPipeline.Http

/-- A character of a name in a media type. -/
def isTokenChar (c : Char) : Bool :=
  c.isAlphanum || "!#$%&'*+-.^_`|~".toList.contains c

/-- A character that may stand between quotes. -/
def isQuotedChar (c : Char) : Bool :=
  c.toNat ≥ 0x20 && c.toNat ≤ 0x7E

/-- Spaces up to the next parameter. -/
def afterQuoted : List Char → Option (List Char)
  | [] => some []
  | ' ' :: rest => afterQuoted rest
  | ';' :: rest => some rest
  | _ => none

/-- A quoted value off the front, whose opening quote is gone: it has one character at least, and
a quote ends it from the second character on. -/
def dropQuoted : List Char → Option (List Char)
  | [] => none
  | first :: rest =>
    if isQuotedChar first then
      match rest.dropWhile (fun c => isQuotedChar c && c != '"') with
      | '"' :: left => afterQuoted left
      | _ => none
    else none

/-- One parameter off the front: what is left, or none if it is malformed. -/
def dropParameter (cs : List Char) : Option (List Char) :=
  let name := cs.takeWhile isTokenChar
  match cs.dropWhile isTokenChar with
  | '=' :: '"' :: rest => if name.isEmpty then none else dropQuoted rest
  | '=' :: rest =>
    if name.isEmpty then none
    else
      match rest.dropWhile isTokenChar with
      | [] => some []
      | ';' :: left => if left.length + 1 = rest.length then none else some left
      | _ => none
  | _ => none

/-- The parameters are well formed. -/
def parametersFit : Nat → List Char → Bool
  | 0, cs => cs.isEmpty
  | _ + 1, [] => true
  | fuel + 1, ' ' :: rest => parametersFit fuel rest
  | fuel + 1, cs =>
    match dropParameter cs with
    | some rest => parametersFit fuel rest
    | none => false

/-- A name cut at its last plus, if one stands behind its first character. -/
def splitSuffix (name : List Char) : List Char × Option (List Char) :=
  if (name.drop 1).contains '+' then
    let suffix := (name.reverse.takeWhile (· != '+')).reverse
    (name.take (name.length - suffix.length - 1), some suffix)
  else (name, none)

/-- The content type announces JSON: `application/json`, `application/json+…` or
`application/…+json`, in any case and with any parameters. -/
def announcesJson (contentType : String) : Bool :=
  let cs := contentType.toList
  let type := cs.takeWhile isTokenChar
  match cs.dropWhile isTokenChar with
  | '/' :: rest =>
    let name := rest.takeWhile isTokenChar
    let fits := match rest.dropWhile isTokenChar with
      | [] => true
      | ';' :: parameters => !name.isEmpty && parametersFit (parameters.length + 1) parameters
      | _ => false
    let (subtype, suffix) := splitSuffix (name.map Char.toLower)
    fits && type.map Char.toLower == "application".toList &&
      (subtype == "json".toList || suffix == some "json".toList)
  | _ => false

end TaskPipeline.Http
