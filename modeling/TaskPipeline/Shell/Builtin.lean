import TaskPipeline.Host.Condition
import TaskPipeline.Host.Format
import TaskPipeline.Shell.Line
import TaskPipeline.Shell.Token

/-!
The commands of the shell that run nothing else: they print, set parameters and options, test
conditions, or say how to go on. Each gives its status.
-/

namespace TaskPipeline.Shell

open Host Sh

/-! ## Printing -/

/-- Prints words and the end of the line; escapes count. -/
def echo (args : List String) : Sh Nat := do
  let (bare, words) := match args with
    | "-n" :: rest => (true, rest)
    | _ => (false, args)
  let (text, stop) := unescaped .scriptText (" ".intercalate words)
  print (if bare ∨ stop then text else text ++ ['\n'])

def printf (args : List String) : Sh Nat := do
  match (← optionsOf "" args).2 with
  | [] => fail "usage: printf format [arg ...]"
  | text :: rest =>
    let done := format .scriptFormat text rest
    for note in done.notes do complain note
    let status ← print done.out
    if done.failed then throw (.failure 2)
    return if done.bad then 1 else status

/-! ## The folder at hand -/

/-- The absolute path of a folder, as it is written. -/
def goTo (path : String) (shows : Bool) : Sh Nat := do
  let m ← get
  let target := resolve m.folder path
  if path = "" then return 0
  if m.disk.hasFolder target then
    let m := (m.setValue "OLDPWD" m.folder).setValue "PWD" target
    set { m with folder := target }
    if shows then print (target ++ "\n").toList else return 0
  else fail ("can't cd to " ++ path)

def cd (args : List String) : Sh Nat := do
  let (_, args) ← optionsOf "LP" args
  let m ← get
  match args with
  | [] => goTo (m.value "HOME") false
  | "-" :: _ => goTo (m.value "OLDPWD") true
  | path :: _ => goTo path false

def pwd (args : List String) : Sh Nat := do
  let _ ← optionsOf "LP" args
  print ((← get).folder ++ "\n").toList

/-! ## Parameters -/

/-- The name and the value of an argument that is an assignment, or a name alone. -/
def nameAndValue (arg : String) : Sh (String × Option String) := do
  let name := String.ofList (arg.toList.takeWhile (· != '='))
  if !isName name then fail (name ++ ": bad variable name")
  return match arg.toList.drop name.length with
    | _ :: value => (name, some (String.ofList value))
    | [] => (name, none)

/-- Shows the parameters of a kind as the commands that make them so. -/
def shownNames (command : String) (names : List String) (m : Machine) : String :=
  let ordered := names.mergeSort fun a b => decide (a ≤ b)
  String.join (ordered.map fun name =>
    command ++ " " ++ name ++ (match m.values.lookup name with
      | some v => "=" ++ quoteValue v
      | none => "") ++ "\n")

/-- Hands parameters down to programs, or shows those that are. -/
def exportNames (args : List String) : Sh Nat := do
  let (found, args) ← optionsOf "p" args
  let m ← get
  if args.isEmpty ∨ !found.isEmpty then print (shownNames "export" m.exported m).toList
  else
    for arg in args do
      let (name, value) ← nameAndValue arg
      match value with
      | some v => assign name v
      | none => pure ()
      modify fun m => m.handDown name
    return 0

/-- Fixes parameters, or shows those that are. -/
def fixNames (args : List String) : Sh Nat := do
  let (found, args) ← optionsOf "p" args
  let m ← get
  if args.isEmpty ∨ !found.isEmpty then print (shownNames "readonly" m.fixed m).toList
  else
    for arg in args do
      let (name, value) ← nameAndValue arg
      match value with
      | some v => assign name v
      | none => pure ()
      modify fun m => { m with fixed := name :: m.fixed.filter (· != name) }
    return 0

/-- Makes parameters a function's own. -/
def ownNames (args : List String) : Sh Nat := do
  if (← get).calls = 0 then fail "not in a function"
  for arg in args do
    let (name, value) ← nameAndValue arg
    modify fun m => m.save name
    match value with
    | some v => assign name v
    | none => pure ()
  return 0

def unsetNames (args : List String) : Sh Nat := do
  let (found, args) ← optionsOf "fv" args
  for name in args do
    if found.getLast? = some 'f' then
      modify fun m => { m with functions := m.functions.filter (·.1 != name) }
    else
      if !isName name then fail (name ++ ": bad variable name")
      if (← get).fixed.contains name then fail (name ++ ": is read only")
      modify fun m => m.unset name
  return 0

def shift (args : List String) : Sh Nat := do
  let n ← match args with
    | [] => pure 1
    | s :: _ => naturalOf s
  let m ← get
  if n > m.args.length then fail "can't shift that many"
  set { m with args := m.args.drop n }
  return 0

/-! ## Conditions -/

def test (name : String) (args : List String) : Sh Nat := do
  if name = "[" ∧ args.getLast? ≠ some "]" then fail "missing ]"
  let m ← get
  match Condition.Script.holds ⟨m.disk, m.folder⟩ (if name = "[" then args.dropLast else args) with
  | .ok true => return 0
  | .ok false => return 1
  | .error text => fail text

/-! ## How to go on -/

/-- The status that an argument asks for. -/
def askedStatus (args : List String) : Sh Nat := do
  match args with
  | [] => return (← get).status
  | s :: _ => naturalOf s

/-- The number of loops that an argument names, of those that are running. -/
def askedLoops (args : List String) : Sh Nat := do
  match args with
  | [] => return min 1 (← get).loops
  | s :: _ =>
    let n ← naturalOf s
    if n = 0 then fail ("Illegal number: " ++ s)
    return min n (← get).loops

def leaveLoops (args : List String) : Sh Nat := do
  let n ← askedLoops args
  if n > 0 then throw (.leaveLoop n)
  return 0

def nextRounds (args : List String) : Sh Nat := do
  let n ← askedLoops args
  if n > 0 then throw (.nextRound n)
  return 0

/-! ## Times and rights -/

/-- The rights that new files do not get, in octal digits. -/
def umask (args : List String) : Sh Nat := do
  let (found, args) ← optionsOf "S" args
  match args with
  | [] =>
    if found.isEmpty then print "0022\n".toList else print "u=rwx,g=rx,o=rx\n".toList
  | s :: _ =>
    if s.toList.all (fun c => c.isAlpha || "+=-,".toList.contains c) ∧ s.toList.contains '=' then
      return 0
    else if s.toList.all fun c => (Text.digitTo? 8 c).isSome then return 0
    else fail ("Illegal mode: " ++ s)

def times : Sh Nat := do
  let line := "0m0.000000s 0m0.000000s\n"
  print (line ++ line).toList

/-! ## All of them -/

/-- The commands of the shell that are found behind functions. -/
def plainNames : List String :=
  ["[", "alias", "bg", "cd", "chdir", "command", "echo", "false", "fg", "getopts", "hash", "jobs",
    "kill", "printf", "pwd", "read", "test", "true", "type", "ulimit", "umask", "unalias", "wait"]

/-- Commands whose arguments may be assignments. -/
def assignsArguments (name : String) : Bool := ["export", "readonly", "local"].contains name

/-- The command of the shell with a name, if it is one of those that run nothing else. -/
def builtin? (name : String) : Option (List String → Sh Nat) :=
  match name with
  | ":" | "true" | "alias" | "unalias" | "hash" | "jobs" => some fun _ => return 0
  | "false" => some fun _ => return 1
  | "echo" => some echo
  | "printf" => some printf
  | "cd" | "chdir" => some cd
  | "pwd" => some pwd
  | "test" | "[" => some (test name)
  | "export" => some exportNames
  | "readonly" => some fixNames
  | "local" => some ownNames
  | "unset" => some unsetNames
  | "set" => some setOptions
  | "shift" => some shift
  | "read" => some readLine
  | "getopts" => some getopts
  | "trap" => some trap
  | "exit" => some fun args => do throw (.exit ((← askedStatus args) % 256))
  | "return" => some fun args => do throw (.leaveFunction (← askedStatus args))
  | "break" => some leaveLoops
  | "continue" => some nextRounds
  | "umask" => some umask
  | "ulimit" => some fun args =>
    if args.any fun s => !s.startsWith "-" then return 0 else print "unlimited\n".toList
  | "times" => some fun _ => times
  | "kill" => some kill
  | "fg" | "bg" => some fun _ => fail "No current job"
  | _ => none

/-! ## What names mean -/

/-- The folders in which programs are looked for. -/
def programPlaces (m : Machine) : List String := (m.value "PATH").splitOn ":"

/-- What a name means as the name of a command, in words and as it could be called. -/
def meaning? (m : Machine) (name : String) : Option (String × String) :=
  if reservedWords.contains name then some (name ++ " is a shell keyword", name)
  else if specialNames.contains name then some (name ++ " is a special shell builtin", name)
  else if (m.functions.lookup name).isSome then some (name ++ " is a shell function", name)
  else if plainNames.contains name then some (name ++ " is a shell builtin", name)
  else
    match findProgram m.disk m.folder (programPlaces m) name with
    | .ok path =>
      let shown := if isPath name then name else path
      some (name ++ " is " ++ shown, shown)
    | .error _ => none

/-- Says what names mean. -/
def typeNames (args : List String) : Sh Nat := do
  let m ← get
  let mut status := 0
  let mut shown := ""
  for name in args do
    match meaning? m name with
    | some (words, _) => shown := shown ++ words ++ "\n"
    | none =>
      shown := shown ++ name ++ ": not found\n"
      status := 127
  let _ ← print shown.toList
  return status

/-- Says what the first of some names means, in words or as it could be called. -/
def tellName (inWords : Bool) (args : List String) : Sh Nat := do
  match args with
  | [] => return 0
  | name :: _ =>
    match meaning? (← get) name with
    | some (words, call) => print ((if inWords then words else call) ++ "\n").toList
    | none =>
      if inWords then let _ ← print (name ++ ": not found\n").toList
      return 127

end TaskPipeline.Shell
