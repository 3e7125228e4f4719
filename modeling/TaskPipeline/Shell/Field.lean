import TaskPipeline.Shell.Machine
import TaskPipeline.Shell.Pattern

/-!
Fields: what the words of a command become. A word expands to glyphs, which are split at separators
where nothing is quoted; the fields that are patterns become the paths that they match.
-/

namespace TaskPipeline.Shell

open Host

/-- A piece of an expanded word. -/
inductive Glyph where
  /-- A character: whether it is quoted, and whether fields may be split at it. -/
  | char (c : Char) (quoted splits : Bool)
  /-- A quoted text begins or ends here, so that there is a field. -/
  | edge
  /-- One argument ends here and the next one begins, quoted or not. -/
  | gap (quoted : Bool)
  /-- A value ends here, which was or was not made of quoted arguments. -/
  | ending (quoted : Bool)
  deriving DecidableEq, Repr

/-- The glyphs of a literal text. -/
def literalGlyphs (quoted splits : Bool) (s : String) : List Glyph :=
  let cs := s.toList.map fun c => Glyph.char c quoted splits
  if quoted ∧ s.isEmpty then [.edge] else cs

/-- The glyphs of a value. -/
def valueGlyphs (quoted : Bool) (s : String) : List Glyph :=
  s.toList.map (fun c => Glyph.char c quoted (!quoted)) ++ if quoted then [] else [.ending false]

/-- The text of some glyphs. -/
def glyphText (gs : List Glyph) : String :=
  String.ofList (gs.filterMap fun
    | .char c _ _ => some c
    | _ => none)

def glyphMarks (gs : List Glyph) : List Marked :=
  gs.filterMap fun
    | .char c quoted _ => some (c, quoted)
    | _ => none

/-! ## Splitting -/

def isBlankSeparator (c : Char) : Bool := c == ' ' || c == '\t' || c == '\n'

/-- Splits glyphs into fields. Behind a separator the blank ones are passed, and one other if the
separator was blank; `behind` says so while they are. -/
def splitGlyphs (separators : String) :
    List Glyph → (current : List Glyph) → (behind : Option Bool) → (lastQuoted : Bool) →
      List (List Glyph)
  | [], current, _, lastQuoted =>
    if lastQuoted ∨ !current.isEmpty then [current.reverse] else []
  | .ending quoted :: rest, current, _, _ => splitGlyphs separators rest current none quoted
  | .gap true :: rest, current, _, lastQuoted =>
    current.reverse :: splitGlyphs separators rest [] none lastQuoted
  | .gap false :: rest, current, behind, lastQuoted =>
    if current.isEmpty then splitGlyphs separators rest [] behind lastQuoted
    else current.reverse :: splitGlyphs separators rest [] (some true) lastQuoted
  | .edge :: rest, current, _, lastQuoted =>
    splitGlyphs separators rest (.edge :: current) none lastQuoted
  | .char c quoted splits :: rest, current, behind, lastQuoted =>
    let blank := isBlankSeparator c
    if splits ∧ separators.toList.contains c then
      match behind with
      | some canPass =>
        if blank then splitGlyphs separators rest current behind lastQuoted
        else if canPass then splitGlyphs separators rest current (some false) lastQuoted
        else current.reverse :: splitGlyphs separators rest [] (some false) lastQuoted
      | none =>
        if blank ∧ current.isEmpty then splitGlyphs separators rest [] none lastQuoted
        else current.reverse :: splitGlyphs separators rest [] (some blank) lastQuoted
    else splitGlyphs separators rest (.char c quoted splits :: current) none lastQuoted

/-- The fields of an expanded word. -/
def fieldsOf (separators : Option String) (gs : List Glyph) : List (List Glyph) :=
  splitGlyphs (separators.getD usualSeparators) gs [] none false

/-- The texts of the fields, where patterns become the paths that they match. -/
def fieldTexts (m : Machine) (gs : List Glyph) : List String :=
  (fieldsOf m.separators gs).flatMap fun field =>
    let paths := if m.has 'f' then [] else pathsLike m.disk m.folder (glyphMarks field)
    if paths.isEmpty then [glyphText field] else paths

/-! ## Arguments and values -/

/-- What stands between arguments that are joined to one text. -/
def joint (m : Machine) : String :=
  match m.separators with
  | some s => String.ofList (s.toList.take 1)
  | none => " "

/-- The glyphs of arguments that stay apart. -/
def apartGlyphs (quoted : Bool) (args : List String) : List Glyph :=
  let each := args.map fun a => a.toList.map fun c => Glyph.char c quoted (!quoted)
  if quoted ∧ args.isEmpty then []
  else (each.intersperse [.gap quoted]).flatten ++ [.ending quoted]

/-- The parameter stands for arguments that stay apart where fields are made. -/
def isApart (name : String) (quoted fields : Bool) : Bool :=
  fields && (name == "@" || (name == "*" && !quoted))

/-- The value of a parameter, none if it has none; and its glyphs. -/
def parameterValue (m : Machine) (name : String) (quoted fields : Bool) :
    Option (String × List Glyph) :=
  if name = "@" ∨ name = "*" then
    let text := (joint m).intercalate m.args
    some (text, if isApart name quoted fields then apartGlyphs quoted m.args
      else valueGlyphs quoted text)
  else (m.lookup name).map fun v => (v, valueGlyphs quoted v)

/-! ## Home folders -/

/-- The folder that a name behind a tilde stands for. -/
def homeOf (m : Machine) (user : String) : Option String :=
  if user.isEmpty then m.values.lookup "HOME" else if user = "root" then some "/root" else none

/-- Replaces a tilde and a name in front of a text; none if the text goes on in another part of the
word before the name ends. -/
def homeFront (m : Machine) (colonEnds isWhole : Bool) (cs : List Char) : Word :=
  match cs with
  | '~' :: rest =>
    let ends (c : Char) : Bool := c == '/' || (colonEnds && c == ':')
    let user := rest.takeWhile (!ends ·)
    let left := rest.drop user.length
    match if left.isEmpty ∧ !isWhole then none else homeOf m (String.ofList user) with
    | some home => [.text home true, .text (String.ofList left) false]
    | none => [.text (String.ofList cs) false]
  | _ => [.text (String.ofList cs) false]

/-- A word with a folder in the place of a tilde in front. -/
def withHome (m : Machine) (w : Word) : Word :=
  match w with
  | .text s false :: rest =>
    if s.startsWith "~" then homeFront m false rest.isEmpty s.toList ++ rest else w
  | _ => w

/-- The value of an assignment with folders in the place of tildes in front and behind colons. -/
def withHomes (m : Machine) (w : Word) : Word :=
  w.zipIdx.flatMap fun (part, n) =>
    match part with
    | .text s false =>
      if s.toList.contains '~' then
        let pieces := s.splitOn ":"
        (pieces.zipIdx.flatMap fun (piece, k) =>
          let isWhole := k + 1 < pieces.length || n + 1 = w.length
          let front : Word := if k = 0 then [] else [.text ":" false]
          front ++ if k > 0 || n = 0 then homeFront m true isWhole piece.toList
            else [.text piece false])
      else [part]
    | _ => [part]

end TaskPipeline.Shell
