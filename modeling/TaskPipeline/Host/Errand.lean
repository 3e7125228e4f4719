import TaskPipeline.Host.Finding
import TaskPipeline.Host.Format
import TaskPipeline.Host.Tool

/-!
Errands: what programs are to do that start other programs or wait. `env`, `nice` and `nohup` start
one program, `timeout` gives it a limited time, `xargs` and `find` start one program many times, and
`sleep` only waits.
-/

namespace TaskPipeline.Host

/-! ## Spans -/

/-- A span written in seconds, with a fraction or a unit perhaps, in milliseconds. -/
def spanOf? (s : String) : Option Nat :=
  match Text.frontMeasure? s.toList with
  | some (.finite false size, rest) =>
    let unit : Option Nat := match rest with
      | [] | ['s'] => some 1
      | ['m'] => some 60
      | ['h'] => some 3600
      | ['d'] => some 86400
      | _ => none
    unit.map fun n => (size.upper * 1000 * n + size.lower - 1) / size.lower
  | _ => none

/-- A span that may be without an end. -/
def waitOf? (s : String) : Option (Option Nat) :=
  if ["infinity", "inf"].contains s then some none else (spanOf? s).map some

/-- How long to sleep, none if for ever; or what is wrong with the arguments. -/
def sleepPlan (w : Workpiece) : Except String (Option Nat) :=
  match ({ letters := "" } : OptionTable).readAll true (w.args.length + 1) w.args with
  | .error text => .error (w.message text ++ w.hint)
  | .ok o =>
    if o.others.isEmpty then .error (w.message "missing operand" ++ w.hint)
    else
      let bad := o.others.filter fun arg => (waitOf? arg).isNone
      if bad.isEmpty then
        .ok ((o.others.filterMap waitOf?).foldlM (fun n span => span.map (n + ·)) 0)
      else
        .error (String.join (bad.map fun arg =>
          w.message ("invalid time interval " ++ inQuotes arg)) ++ w.hint)

/-! ## Errands -/

/-- How long a program may run, and what ends it then. -/
structure TimeLimit where
  span : Nat
  /-- The name of a signal. -/
  signal : String
  /-- The status of the program counts even if it was ended. -/
  keepsStatus : Bool
  /-- What more time it gets until it is killed; none if it is not. -/
  grace : Option Nat

inductive Errand where
  /-- Run a program with an environment. -/
  | within (environment : List (String × String)) (command : List String)
  /-- Run programs one after another; each is shown before perhaps. -/
  | repeatedly (commands : List (List String)) (shows : Bool)
  /-- Run a program for some time at most. -/
  | limited (limit : TimeLimit) (command : List String)
  /-- Nothing is to be run. -/
  | settled (status : Nat) (out err : String)

/-- How a program that cannot be run is called by the one that was to run it. -/
def refersTo (base name : String) : String :=
  match base with
  | "xargs" => name
  | "timeout" => "failed to run command " ++ inQuotes name
  | "nohup" => "failed to run command " ++ alwaysQuoted name
  | _ => inQuotes name

/-- What else is said of a program that is missing: a name with blanks may be a whole command. -/
def adviceFor? (base name : String) : Option String :=
  if base = "env" ∧ name.toList.any Text.isSpace then
    some "use -[v]S to pass options in shebang lines"
  else none

/-- Sets a variable of an environment; a new one comes last. -/
def setVariable (environment : List (String × String)) (name value : String) :
    List (String × String) :=
  if (environment.lookup name).isSome then
    environment.map fun v => if v.1 = name then (name, value) else v
  else environment ++ [(name, value)]

/-- The assignments in front of a command, made in an environment, and the command. -/
def assignedFront : List (String × String) → List String → List (String × String) × List String
  | environment, [] => (environment, [])
  | environment, arg :: rest =>
    match arg.splitOn "=" with
    | name :: value :: more =>
      assignedFront (setVariable environment name ("=".intercalate (value :: more))) rest
    | _ => (environment, arg :: rest)

/-- An errand that depends on options, which stand before everything else. -/
def Workpiece.errandWith (w : Workpiece) (status : Nat) (t : OptionTable)
    (plan : Options → Errand) : Errand :=
  match t.readAll false (w.args.length + 1) w.args with
  | .ok o => plan o
  | .error text => .settled status "" (w.message text ++ w.hint)

def envErrand (w : Workpiece) : Errand :=
  w.errandWith 125 { letters := "i0v", withArgument := "uCS", long :=
      [("--ignore-environment", 'i'), ("--unset", 'u'), ("--null", '0')] } fun o =>
    let bare := o.has 'i' || o.others.head? == some "-"
    let others := if o.others.head? = some "-" then o.others.drop 1 else o.others
    let dropped := (o.found.filter fun p => p.1 == 'u').map (·.2)
    let start := if bare then [] else w.environment.filter fun v => !dropped.contains v.1
    let (environment, command) := assignedFront start others
    if command.isEmpty then
      let ending := if o.has '0' then "\x00" else "\n"
      .settled 0 (String.join (environment.map fun (name, v) => name ++ "=" ++ v ++ ending)) ""
    else .within environment command

def niceErrand (w : Workpiece) : Errand :=
  let args := match w.args with
    | arg :: rest =>
      match arg.toList with
      | '-' :: c :: cs =>
        if (c :: cs).all fun c => c.isDigit || c == '-' || c == '+' then
          "-n" :: String.ofList (c :: cs) :: rest
        else arg :: rest
      | _ => arg :: rest
    | [] => []
  { w with args := args }.errandWith 125 { letters := "", withArgument := "n", long :=
      [("--adjustment", 'n')] } fun o =>
    let wish := (o.value? 'n').getD "10"
    match Text.frontInteger? wish.toList with
    | some (_, []) =>
      if o.others.isEmpty then .settled 0 "0\n" "" else .within w.environment o.others
    | _ => .settled 125 "" (w.message ("invalid adjustment " ++ inQuotes wish))

/-- The signals that a limited program may be ended with. -/
def endingSignals : List (String × Nat) :=
  [("HUP", 1), ("INT", 2), ("QUIT", 3), ("KILL", 9), ("USR1", 10), ("USR2", 12), ("ALRM", 14),
    ("TERM", 15)]

def endingSignal? (s : String) : Option String :=
  let bare := if s.startsWith "SIG" then String.ofList (s.toList.drop 3) else s
  let number := Text.digits? s.toList
  (endingSignals.find? fun p => p.1 = bare ∨ some p.2 = number).map (·.1)

def timeoutErrand (w : Workpiece) : Errand :=
  w.errandWith 125 { letters := "pfv", withArgument := "sk", long := [("--signal", 's'),
      ("--kill-after", 'k'), ("--preserve-status", 'p'), ("--foreground", 'f'),
      ("--verbose", 'v')] } fun o =>
    let invalid (s : String) : Errand :=
      .settled 125 "" (w.message ("invalid time interval " ++ inQuotes s) ++ w.hint)
    match (o.value? 'k').filter fun s => (waitOf? s).isNone,
        endingSignal? ((o.value? 's').getD "TERM"), o.others with
    | some bad, _, _ => invalid bad
    | none, none, _ =>
      let name := (o.value? 's').getD ""
      .settled 125 "" (w.message (inQuotes name ++ ": invalid signal") ++ w.hint)
    | none, some _, [] | none, some _, [_] => .settled 125 "" w.hint
    | none, some signal, span :: command =>
      match waitOf? span with
      | none => invalid span
      | some none | some (some 0) => .within w.environment command
      | some (some n) =>
        let grace := ((o.value? 'k').bind waitOf?).bind id
        .limited ⟨n, signal, o.has 'p', grace⟩ command

/-! ## Words of the input -/

/-- The words of an input, at blanks that no quote and no backslash hides; or the quote that has no
end. -/
def inputWords : Option Char → Option String → List Char → Except Char (List String)
  | some q, _, [] => .error q
  | none, current, [] => .ok current.toList
  | some q, current, c :: cs =>
    if c = '\n' then .error q
    else if c = q then inputWords none (some (current.getD "")) cs
    else inputWords (some q) (some ((current.getD "").push c)) cs
  | none, current, '\\' :: c :: cs => inputWords none (some ((current.getD "").push c)) cs
  | none, current, c :: cs =>
    if c = '\'' ∨ c = '"' then inputWords (some c) (some (current.getD "")) cs
    else if Text.isSpace c then do
      return current.toList ++ (← inputWords none none cs)
    else inputWords none (some ((current.getD "").push c)) cs

/-- Cuts a list into pieces of a size. -/
def piecesOf {α : Type} (size : Nat) : Nat → List α → List (List α)
  | 0, _ | _, [] => []
  | fuel + 1, xs => xs.take (max size 1) :: piecesOf size fuel (xs.drop (max size 1))

/-- The texts between separators, of which the last one may end with one. -/
def separated (separator : Char) (s : String) : List String :=
  let parts := s.splitOn (String.singleton separator)
  if parts.getLast? = some "" then parts.dropLast else parts

def unmatchedQuote (q : Char) : String :=
  "unmatched " ++ (if q = '"' then "double" else "single") ++
    " quote; by default quotes are special to xargs unless you use the -0 option"

/-- Arguments in which the mark for words stands apart from its letter. -/
def splitMark (args : List String) : List String :=
  args.flatMap fun arg =>
    match arg.toList with
    | ['-', 'i'] => ["-I", "\x7b\x7d"]
    | _ => [arg]

/-- The programs that are to be run for the words of the input. -/
def xargsPlan (w : Workpiece) (o : Options) : Errand :=
  let command := if o.others.isEmpty then ["echo"] else o.others
  let input := textOf w.input.bytes
  let separator : Option Char :=
    if o.has '0' then some '\x00'
    else (o.value? 'd').bind fun s => (unescaped .toolText s).1.head?
  let number (c : Char) : Option Nat := (o.value? c).bind fun s => Text.digits? s.toList
  let bad := "nL".toList.find? fun c => o.has c && (number c).isNone
  match bad, o.value? 'I' with
  | some c, _ =>
    .settled 1 "" (w.message ("invalid number \"" ++ (o.value? c).getD "" ++ "\" for -" ++
      String.singleton c ++ " option") ++ w.hint)
  | none, some mark =>
    let lines := (separated (separator.getD '\n') input).map fun line =>
      String.ofList (line.toList.dropWhile Text.isSpace)
    let lines := lines.filter (· != "")
    .repeatedly (lines.map fun line =>
      command.map fun word => line.intercalate (word.splitOn mark)) (o.has 't')
  | none, none =>
    let words : Except Char (List (List String)) := match separator, number 'L' with
      | some c, _ => .ok [separated c input]
      | none, some n => do
        let lines := (separated '\n' input).filter fun line => !line.toList.all Text.isSpace
        let each ← lines.mapM fun line => inputWords none none line.toList
        return (piecesOf n each.length each).map List.flatten
      | none, none => do return [← inputWords none none input.toList]
    match words with
    | .error q => .settled 1 "" (w.message (unmatchedQuote q))
    | .ok groups =>
      let pieces := groups.flatMap fun group =>
        match number 'n' with
        | some n => piecesOf n group.length group
        | none => if group.isEmpty then [] else [group]
      let pieces := if pieces.isEmpty ∧ !o.has 'r' then [[]] else pieces
      .repeatedly (pieces.map (command ++ ·)) (o.has 't')

def xargsErrand (w : Workpiece) : Errand :=
  { w with args := splitMark w.args }.errandWith 1 {
      letters := "r0txpo"
      withArgument := "nILPdsEa"
      long := [("--no-run-if-empty", 'r'), ("--null", '0'), ("--verbose", 't'),
        ("--max-args", 'n'), ("--max-lines", 'L'), ("--max-procs", 'P'), ("--delimiter", 'd'),
        ("--replace", 'I')] } (xargsPlan w)

/-- The errand of a program by its name, if it is one that starts other programs. -/
def errand? (base : String) (w : Workpiece) : Option Errand :=
  match base with
  | "env" => some (envErrand w)
  | "nice" => some (niceErrand w)
  | "nohup" =>
    some (if w.args.isEmpty then .settled 125 "" (w.message "missing operand" ++ w.hint)
      else .within w.environment w.args)
  | "timeout" => some (timeoutErrand w)
  | "xargs" => some (xargsErrand w)
  | "find" => (findCommands? w).map fun commands => .repeatedly commands false
  | _ => none

end TaskPipeline.Host
