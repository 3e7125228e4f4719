import TaskPipeline.Shell.Script

/-!
What a reader of scripts holds: the characters that are left, the last token, and the documents in
the script whose text is still to come. Every step may find that the script is none.
-/

namespace TaskPipeline.Shell

inductive Token where
  | endOfFile
  | lineEnd
  | operator (s : String)
  | redirection
  | word
  /-- A word that has a meaning of its own where a command can begin. -/
  | reserved (s : String)
  deriving DecidableEq, Repr

/-- The words that are reserved. -/
def reservedWords : List String :=
  ["!", "case", "do", "done", "elif", "else", "esac", "fi", "for", "if", "in", "then", "until",
    "while", "\x7b", "\x7d"]

/-- A token as messages show it. -/
def Token.shown : Token → String
  | endOfFile => "end of file"
  | lineEnd => "newline"
  | operator s | reserved s => "\"" ++ s ++ "\""
  | redirection => "redirection"
  | word => "word"

/-- The token ends a list of commands. -/
def Token.ends : Token → Bool
  | endOfFile => true
  | operator s => s == ")" || s == ";;"
  | reserved s => ["do", "done", "elif", "else", "esac", "fi", "then", "\x7d"].contains s
  | _ => false

/-! ## What goes wrong -/

/-- Why a text is no script. -/
inductive ScriptError where
  | unexpected (found : Token) (expected : Option Token)
  | openQuote
  | openBrace
  | openTerm
  | openBackquote
  | badLoopName
  | badFunctionName
  | badStream
  deriving DecidableEq, Repr

def ScriptError.message : ScriptError → String
  | unexpected found none => found.shown ++ " unexpected"
  | unexpected found (some t) => found.shown ++ " unexpected (expecting " ++ t.shown ++ ")"
  | openQuote => "Unterminated quoted string"
  | openBrace => "Missing '\x7d'"
  | openTerm => "Missing '))'"
  | openBackquote => "EOF in backquote substitution"
  | badLoopName => "Bad for loop variable"
  | badFunctionName => "Bad function name"
  | badStream => "Bad fd number"

structure Misread where
  line : Nat
  cause : ScriptError
  deriving Repr

/-! ## Readers -/

/-- A document whose text stands behind the line at hand. -/
structure Awaited where
  key : Nat
  /-- The line that ends the text. -/
  mark : String
  stripTabs : Bool
  expands : Bool

structure Reader where
  rest : List Char
  line : Nat := 1
  /-- The last token, which may be read once more. -/
  token : Token := .lineEnd
  again : Bool := false
  /-- The last word, and whether a part of it was quoted. -/
  word : Word := []
  quoted : Bool := false
  /-- The stream and the operator of the last redirection. -/
  redirect : Nat × String := (0, "")
  /-- The word at hand marks the end of a document; nothing is expanded in it. -/
  marking : Bool := false
  awaited : List Awaited := []
  documents : List (Nat × Word) := []
  nextKey : Nat := 0

abbrev Reading := StateT Reader (Except Misread)

namespace Reading

def fail {α : Type} (cause : ScriptError) : Reading α := do throw ⟨(← get).line, cause⟩

/-- Drops the line ends that a backslash hides. -/
def withoutJoins (line : Nat) : List Char → List Char × Nat
  | '\\' :: '\n' :: rest => withoutJoins (line + 1) rest
  | cs => (cs, line)

/-- The next character, behind hidden line ends. -/
def ahead : Reading (Option Char) :=
  modifyGet fun r =>
    let (rest, line) := withoutJoins r.line r.rest
    (rest.head?, { r with rest := rest, line := line })

/-- The next character as it stands there. -/
def bareAhead : Reading (Option Char) := do return (← get).rest.head?

/-- Goes behind the next character. -/
def skip : Reading Unit :=
  modify fun r => { r with
    rest := r.rest.drop 1
    line := if r.rest.head? = some '\n' then r.line + 1 else r.line }

/-- Goes behind the next character if it is the one given. -/
def skipIf (c : Char) : Reading Bool := do
  if (← ahead) = some c then
    skip
    return true
  else return false

/-- Has the last token read once more. -/
def putBack : Reading Unit := modify fun r => { r with again := true }

def noteQuoted : Reading Unit := modify fun r => { r with quoted := true }

end Reading

/-! ## Blanks and names -/

def isMeta (c : Char) : Bool := " \t\n;&|<>()".toList.contains c

/-- What stands behind blanks, comments and hidden line ends. -/
def behindBlanks (comment : Bool) (line : Nat) : List Char → List Char × Nat
  | [] => ([], line)
  | c :: rest =>
    if comment then
      if c = '\n' then (c :: rest, line) else behindBlanks true line rest
    else if c = ' ' ∨ c = '\t' then behindBlanks false line rest
    else if c = '#' then behindBlanks true line rest
    else
      match c, rest with
      | '\\', '\n' :: rest => behindBlanks false (line + 1) rest
      | _, _ => (c :: rest, line)

/-- The name and the use of a parameter in braces, whether the brace has been closed, and what is
left. -/
structure ParameterHead where
  name : String
  use : Use
  closed : Bool := false
  left : List Char

/-- The use that is written behind a name. -/
def useBehind (name : String) (cs : List Char) : ParameterHead :=
  match cs with
  | '}' :: rest => ⟨name, .plain, true, rest⟩
  | ':' :: '-' :: rest => ⟨name, .orElse true, false, rest⟩
  | ':' :: '+' :: rest => ⟨name, .andThen true, false, rest⟩
  | ':' :: '=' :: rest => ⟨name, .orAssign true, false, rest⟩
  | ':' :: '?' :: rest => ⟨name, .orFail true, false, rest⟩
  | ':' :: '}' :: rest => ⟨name, .plain, false, rest⟩
  | ':' :: _ :: rest => ⟨name, .bad, false, rest⟩
  | '-' :: rest => ⟨name, .orElse false, false, rest⟩
  | '+' :: rest => ⟨name, .andThen false, false, rest⟩
  | '=' :: rest => ⟨name, .orAssign false, false, rest⟩
  | '?' :: rest => ⟨name, .orFail false, false, rest⟩
  | '%' :: '%' :: rest => ⟨name, .trim false true, false, rest⟩
  | '%' :: rest => ⟨name, .trim false false, false, rest⟩
  | '#' :: '#' :: rest => ⟨name, .trim true true, false, rest⟩
  | '#' :: rest => ⟨name, .trim true false, false, rest⟩
  | _ :: rest => ⟨name, .bad, false, rest⟩
  | [] => ⟨name, .bad, false, []⟩

/-- The name in front: of letters, or of digits only. -/
def frontName (cs : List Char) : List Char :=
  if cs.head?.any Char.isDigit then cs.takeWhile Char.isDigit else cs.takeWhile isNameChar

/-- What stands behind the opening brace of a parameter. -/
def parameterHead (cs : List Char) : ParameterHead :=
  let named (cs : List Char) : ParameterHead :=
    let name := frontName cs
    useBehind (String.ofList name) (cs.drop name.length)
  match cs with
  | '#' :: c :: rest =>
    if isNameChar c then
      let name := frontName (c :: rest)
      let left := (c :: rest).drop name.length
      ⟨String.ofList name, if left.head? = some '}' then .length else .bad, false, left⟩
    else if c ≠ '}' ∧ rest.head? = some '}' then
      ⟨String.singleton c, if isSpecialName c then .length else .bad, false, rest⟩
    else useBehind "#" (c :: rest)
  | '#' :: [] => ⟨"#", .bad, false, []⟩
  | '}' :: _ | [] => ⟨"", .bad, false, cs⟩
  | c :: rest =>
    if isNameChar c then named cs
    else if isSpecialName c then useBehind (String.singleton c) rest
    else ⟨"", .bad, false, rest⟩

end TaskPipeline.Shell
