/-!
Scripts of the shell that runs the commands of a host: words with their expansions, redirections,
and commands made of other commands. The texts in a script are raw texts.
-/

namespace TaskPipeline.Shell

/-- What becomes of the value of a parameter. The flag of the four conditional uses says that an
empty value counts as none. -/
inductive Use where
  | plain
  | length
  /-- A word where there is no value. -/
  | orElse (emptyToo : Bool)
  /-- A word where there is a value. -/
  | andThen (emptyToo : Bool)
  /-- A word where there is no value, which the parameter then takes. -/
  | orAssign (emptyToo : Bool)
  /-- The end of the script where there is no value. -/
  | orFail (emptyToo : Bool)
  /-- The value without a part at its front or at its end that a pattern matches. -/
  | trim (front longest : Bool)
  /-- No use that there is: the script ends where it comes to this. -/
  | bad
  deriving DecidableEq, Repr

/-- How a file is opened. -/
inductive Opening where
  | reading
  | writing
  /-- Writing even where files that are there are to be kept. -/
  | forcing
  | appending
  | both
  deriving DecidableEq, Repr

mutual

/-- A part of a word. What is quoted is neither split into fields nor part of a pattern. -/
inductive Part where
  | text (s : String) (quoted : Bool)
  | parameter (name : String) (use : Use) (word : List Part) (quoted : Bool)
  /-- What a command prints. -/
  | output (body : Command) (quoted : Bool)
  | arithmetic (term : List Part) (quoted : Bool)

inductive Redirect where
  | file (stream : Nat) (opening : Opening) (target : List Part)
  /-- One stream goes where another one goes, whose number a word gives; a dash closes it. -/
  | join (stream : Nat) (target : List Part)
  /-- A text that stands in the script itself, kept under a key. -/
  | document (stream key : Nat)

inductive Command where
  | nothing
  /-- Assignments, and a program with its arguments. -/
  | simple (line : Nat) (assigned : List (String × List Part)) (words : List (List Part))
      (redirects : List Redirect)
  | sequence (first second : Command)
  | both (first second : Command)
  | either (first second : Command)
  | negation (body : Command)
  | pipe (source sink : Command)
  /-- Left to itself while the script goes on. -/
  | background (body : Command)
  | subshell (line : Nat) (body : Command)
  | redirected (line : Nat) (body : Command) (redirects : List Redirect)
  | branch (condition yes no : Command)
  /-- Repeated while the condition succeeds, or until it does. -/
  | loop (untilSuccess : Bool) (condition body : Command)
  | each (line : Nat) (name : String) (words : List (List Part)) (body : Command)
  /-- The first of some bodies that has a pattern which matches. -/
  | choose (line : Nat) (subject : List Part) (cases : List (List (List Part) × Command))
  | define (name : String) (body : Command)

end

abbrev Word := List Part

/-! ## Names -/

def isNameStart (c : Char) : Bool := c.isAlpha || c == '_'

def isNameChar (c : Char) : Bool := c.isAlphanum || c == '_'

def isName (s : String) : Bool := s.toList.head?.any isNameStart && s.toList.all isNameChar

/-- Parameters whose names are single characters. -/
def isSpecialName (c : Char) : Bool := "!#$*-?@".toList.contains c || c.isDigit

/-- The names of the commands that are part of the shell and cannot be functions. -/
def specialNames : List String :=
  [".", ":", "break", "continue", "eval", "exec", "exit", "export", "local", "readonly", "return",
    "set", "shift", "times", "trap", "unset"]

/-! ## Words -/

/-- Puts a character behind the parts of a word; the parts come in reverse. -/
def putChar (c : Char) (quoted : Bool) : Word → Word
  | .text s q :: rest =>
    if q = quoted then .text (s.push c) q :: rest
    else .text (String.singleton c) quoted :: .text s q :: rest
  | ps => .text (String.singleton c) quoted :: ps

/-- Puts the parts of a quoted text behind the parts of a word. The arguments in quotes stay apart,
so that no arguments are no field; every other quoted text is a field even if it is empty. -/
def putQuoted (inside : Word) (ps : Word) : Word :=
  match inside with
  | [.parameter "@" .plain [] true] => inside ++ ps
  | _ =>
    match inside.getLast? with
    | some (.text _ true) => inside ++ ps
    | _ => inside ++ .text "" true :: ps

/-- The characters of a word as they are written, without quotes and expansions. -/
def written (w : Word) : String :=
  String.join (w.map fun
    | .text s _ => s
    | _ => "")

/-- The text of a word that has neither quotes nor expansions. -/
def bare? : Word → Option String
  | [.text s false] => some s
  | _ => none

/-- The name and the value of an assignment. -/
def assignment? (w : Word) : Option (String × Word) :=
  match w with
  | .text s false :: more =>
    let name := s.toList.takeWhile isNameChar
    match s.toList.drop name.length with
    | '=' :: value =>
      if name.head?.any isNameStart then
        let front := if value.isEmpty then [] else [Part.text (String.ofList value) false]
        some (String.ofList name, front ++ more)
      else none
    | _ => none
  | _ => none

end TaskPipeline.Shell
