import TaskPipeline.Host.Errand
import TaskPipeline.Host.Tools
import TaskPipeline.Shell.Arithmetic
import TaskPipeline.Shell.Builtin
import TaskPipeline.Shell.Field
import TaskPipeline.Shell.Reader

/-!
Running scripts. Every step takes some fuel; a script that uses it up counts as one that never
ends.
-/

namespace TaskPipeline.Shell

open Host Sh

/-- The text that a script prints, without the line ends at its end. -/
def outputText (f : Feed) : String :=
  textOf ((f.bytes.filter (· != 0)).reverse.dropWhile (· == 10)).reverse

/-- The status of a body that was run for its output, which must end. -/
def settled (result : Except Stop Nat) (f : Feed) : Sh Nat := do
  if f.isEndless then throw .endless
  match result with
  | .ok status => return status
  | .error stop => throw stop

/-- Whether a parameter has a value for a use. -/
def hasValue (emptyToo : Bool) (v : Option (String × List Glyph)) : Bool :=
  v.any fun (text, _) => !(emptyToo && text.isEmpty)

def unsetFailure {α : Type} (name : String) : Sh α := fail (name ++ ": parameter not set")

/-- A value where it matters that there is one. -/
def demanded (name : String) (v : Option (String × List Glyph)) :
    Sh (Option (String × List Glyph)) := do
  if v.isNone ∧ (← get).has 'u' then unsetFailure name
  return v

/-- The value of a term, whose assignments are made. -/
def calculate (term : String) : Sh String := do
  let m ← get
  match Arithmetic.eval m.lookup m.fixed.contains term with
  | .ok (n, assigned) =>
    for (name, v) in assigned do assign name (toString v.toInt)
    return toString n.toInt
  | .error e => fail (e.message term)

/-- The channels that a command left to itself can write to, of those of some streams. -/
def heldBy (held : Nat → Option Nat) : List Redirect → Nat → Option Nat
  | [] => held
  | r :: rs =>
    let change (stream : Nat) (c : Option Nat) : Nat → Option Nat :=
      fun n => if n = stream then c else held n
    match r with
    | .file stream .. | .document stream _ => heldBy (change stream none) rs
    | .join stream target =>
      let c := ((bare? target).bind fun s => Text.digits? s.toList).bind held
      heldBy (change stream c) rs

def heldChannels (m : Machine) (body : Command) : List Nat :=
  let held (n : Nat) : Option Nat := match m.stream n with
    | some (.channel c) => some c
    | _ => none
  let held := match body with
    | .simple _ _ _ rs | .redirected _ _ rs => heldBy held rs
    | _ => held
  (List.range 10).filterMap held

/-- A command left to itself starts programs and waits for them. -/
def isParent : Command → Bool
  | .simple _ _ words _ => ((words.head?.bind bare?).map fun s => shells.contains s).getD true
  | .subshell _ body | .redirected _ body _ => isParent body
  | _ => true

/-- Takes a signal that has arrived. The answer is what is to be done about it; nothing if it is
empty. A program that runs while a signal ends its shell runs on by itself. -/
def receive (a : Arrival) : Sh String := do
  let m ← get
  let m := match a.target with
    | some _ => { m with arrivals := m.arrivals.erase a }
    | none => { m with heard := true }
  set m
  let number := signalNumber a.signal
  match m.handler? a.signal with
  | some script => return script
  | none =>
    if isHarmless number then return ""
    if isHalting number then throw .endless
    let left : Job := {
      pid := 0
      shell := 0
      status := 0
      endsAt := some m.clock
      holds := heldChannels m .nothing }
    set { m with clock := min m.clock a.instant, jobs := left :: m.jobs }
    throw (.killed m.shell number)

namespace Machine

/-- Some jobs have been waited for. -/
def reap (m : Machine) (which : Job → Bool) : Machine :=
  { m with jobs := m.jobs.map fun j => if which j then { j with isReaped := true } else j }

/-- What a shell that is started gets from the one that starts it. -/
def forChild (m : Machine) (pid : Nat) (call : Invocation) : Machine :=
  let own := ["OPTIND", "IFS", "PWD"]
  let given := m.environment.filter fun v => isName v.1 && !own.contains v.1
  let path := if (given.lookup "PATH").isSome then [] else [("PATH", standingPath)]
  let child := { m with
    pid := pid
    shell := pid
    ancestors :=
      (if m.shell = m.pid then [m.shell] else [m.shell, m.pid]) ++ m.ancestors
    heard := m.missed
    values := [("OPTIND", "1"), ("IFS", usualSeparators), ("PWD", m.folder)] ++ path ++ given
    exported := "PWD" :: given.map Prod.fst
    fixed := []
    saved := []
    functions := []
    name := call.name
    args := call.args
    status := 0
    line := 0
    speaker := none
    traps := m.traps.filter (·.2 == "")
    lastJob := none
    options := []
    tested := false
    isLast := false
    isQuiet := false
    loops := 0
    calls := 0 }
  child.turned call.wish

end Machine

/-- Opens a file for a stream; none if it cannot be opened. -/
def openFile (opening : Opening) (name : String) : Sh (Option Stream) := do
  let m ← get
  let path := resolve m.folder name
  let reads := opening = .reading ∨ opening = .both
  let refuse (why : String) : Sh (Option Stream) := do
    let verb := if opening = .reading then "cannot open " else "cannot create "
    complain (verb ++ name ++ ": " ++ why)
    return none
  if path = "/dev/null" then return some .nowhere
  if Disk.endlessFiles.contains path ∧ !reads then
    return some (if path = "/dev/full" then .full else .nowhere)
  if path = "/dev/stdin" ∨ path = "/dev/fd/0" then return m.stream 0
  if path = "/dev/stdout" ∨ path = "/dev/fd/1" then return m.stream 1
  if path = "/dev/stderr" ∨ path = "/dev/fd/2" then return m.stream 2
  if path = "/dev/tty" then return ← refuse "No such device or address"
  if m.disk.hasFolder path ∧ !name.isEmpty then
    if opening ≠ .reading then return ← refuse "Is a directory"
    return some (← newFeed {})
  let there := !name.isEmpty ∧ (m.disk.hasFile path ∨ isProgramPath path)
  if reads ∧ there then
    return some (← newFileFeed ((m.disk.read? path).getD {}))
  else if opening = .reading then refuse "No such file"
  else if name.isEmpty ∨ !m.disk.hasFolder (Disk.parent path) then refuse "Directory nonexistent"
  else if there ∧ opening = .writing ∧ m.has 'C' then refuse "File exists"
  else
    if opening ≠ .appending ∨ !there then set (m.setDisk (m.disk.write path []))
    if reads then return some (← newFeed {}) else return some (.file path)

/-- Lets one stream go where another one goes, or closes it. -/
def joinStreams (stream : Nat) (target : String) : Sh Bool := do
  if target = "-" then
    modify fun m => m.closeStream stream
    return true
  match target.toList with
  | [d] =>
    if !d.isDigit then fail "Syntax error: Bad fd number"
    match (← get).stream (d.toNat - '0'.toNat) with
    | some s =>
      modify fun m => m.setStream stream s
      return true
    | none =>
      complain (target ++ ": Bad file descriptor")
      return false
  | _ => fail "Syntax error: Bad fd number"

/-- Shows a command before it is run. -/
def traceCommand (stderr : Option Stream) (assigned : List (String × String))
    (fields : List String) : Sh Unit := do
  let m ← get
  if m.has 'x' then
    let words := assigned.map (fun (name, v) => name ++ "=" ++ v) ++ fields
    let front := (m.values.lookup "PS4").getD "+ "
    match stderr with
    | some s => putTo s (.ofText (front ++ " ".intercalate words ++ "\n"))
    | none => pure ()

/-- The words of a command show whether its arguments may be assignments, as soon as its name is
among them. -/
def takesAssignments? (m : Machine) (fields : List String) : Option Bool :=
  ((fields.dropWhile (· == "command")).head?).map fun name =>
    assignsArguments name && (m.functions.lookup name).isNone

/-- What a tool works on. -/
def workpiece (m : Machine) (called : String) (args : List String) (input : Feed) : Workpiece where
  name := called
  args := args
  input := input
  disk := m.disk
  folder := m.folder
  environment := m.environment
  inputIsFile := match m.stream 0 with
    | some (.feed n) => m.fileFeeds.contains n
    | _ => false

/-- The interpreter that a file names in its first line, if it names one. -/
def interpreter? (content : String) : Option String :=
  match content.toList with
  | '#' :: '!' :: rest =>
    let line := (rest.takeWhile (· != '\n')).dropWhile (· == ' ')
    some (String.ofList (line.takeWhile (· != ' ')))
  | _ => none

/-- The functions that may be running inside each other. -/
def deepestCall : Nat := 1000

/-- Runs a loop, which knows how many loops it stands in. -/
def inLoop (body : Sh Nat) : Sh Nat := do
  let before ← get
  set { before with loops := before.loops + 1, isLast := false }
  let result ← attempt body
  modify fun m => { m with loops := before.loops, isLast := before.isLast }
  match result with
  | .ok status => return status
  | .error stop => throw stop

mutual

/-- The glyphs that a part of a word adds. The flags say that the part stands in the word of a
parameter, that all of it is quoted, and that fields are made of it. -/
def expandPart : Nat → (inWord quoted fields : Bool) → Part → Sh (List Glyph)
  | 0, _, _, _, _ => throw .endless
  | fuel + 1, inWord, quoted, fields, part => do
    match part with
    | .text s q =>
      let splits := inWord && !(q || quoted)
      return literalGlyphs (q || quoted) splits s ++ if splits then [.ending false] else []
    | .parameter name use word q =>
      let quoted := q || quoted
      let v := parameterValue (← get) name quoted fields
      let glyphs := (v.map (·.2)).getD []
      match use with
      | .plain =>
        let glyphs := ((← demanded name v).map (·.2)).getD []
        return glyphs ++ (← expandParts fuel true quoted fields word)
      | .length =>
        let v ← demanded name v
        return valueGlyphs quoted (toString ((v.map (·.1.length)).getD 0))
      | .orElse emptyToo =>
        if hasValue emptyToo v then return glyphs
        else expandParts fuel true quoted fields (withHome (← get) word)
      | .andThen emptyToo =>
        if hasValue emptyToo v then expandParts fuel true quoted fields (withHome (← get) word)
        else return []
      | .orAssign emptyToo =>
        if hasValue emptyToo v then return glyphs
        let text ← expandText fuel false (withHome (← get) word)
        if !isName name then fail (name ++ ": bad variable name")
        assign name text
        return valueGlyphs quoted text
      | .orFail emptyToo =>
        if hasValue emptyToo v then return glyphs
        if word.isEmpty then
          fail (name ++ ": parameter not set" ++ if emptyToo then " or null" else "")
        let text ← expandText fuel false (withHome (← get) word)
        fail (name ++ ": " ++ text)
      | .trim front longest =>
        match ← demanded name v with
        | none => return []
        | some (text, _) =>
          let marks := glyphMarks (← expandParts fuel false false false (withHome (← get) word))
          let args := (← get).args
          if isApart name quoted fields ∧ !args.isEmpty then
            let whole := "\x00".intercalate args
            let left := trimmed front longest (patternOf marks) whole.toList
            return apartGlyphs quoted ((String.ofList left).splitOn "\x00")
          else
            let left := trimmed front longest (patternOf marks) text.toList
            return valueGlyphs quoted (String.ofList left)
      | .bad => fail "Bad substitution"
    | .output body q =>
      let (result, out) ← capture do
        modify fun m => { m with tested := false }
        runToEnd fuel (runCommand fuel body)
      let status ← settled result out
      match (← get).doom? with
      | some a => let _ ← receive a
      | none => pure ()
      modify fun m => { m with outputStatus := status }
      return valueGlyphs (q || quoted) (outputText out)
    | .arithmetic term q =>
      return valueGlyphs (q || quoted) (← calculate (← expandText fuel true term))

def expandParts : Nat → (inWord quoted fields : Bool) → Word → Sh (List Glyph)
  | 0, _, _, _, _ => throw .endless
  | _, _, _, _, [] => return []
  | fuel + 1, inWord, quoted, fields, p :: ps => do
    let front ← expandPart fuel inWord quoted fields p
    return front ++ (← expandParts fuel inWord quoted fields ps)

/-- A word as one text. -/
def expandText : Nat → (quoted : Bool) → Word → Sh String
  | 0, _, _ => throw .endless
  | fuel + 1, quoted, w => do return glyphText (← expandParts fuel false quoted false w)

/-- The fields of some words. -/
def expandWords : Nat → List Word → Sh (List String)
  | 0, _ => throw .endless
  | _, [] => return []
  | fuel + 1, w :: ws => do
    let gs ← expandParts fuel false false true (withHome (← get) w)
    let fields := fieldTexts (← get) gs
    return fields ++ (← expandWords fuel ws)

/-- The fields of the words of a command. Where assignments may be arguments, they stay whole. -/
def expandCall : Nat → List String → List Word → Sh (List String)
  | 0, _, _ => throw .endless
  | _, done, [] => return done
  | fuel + 1, done, w :: ws => do
    match takesAssignments? (← get) done, assignment? w with
    | some true, some (name, value) =>
      let text ← expandText fuel false (withHomes (← get) value)
      expandCall fuel (done ++ [name ++ "=" ++ text]) ws
    | _, _ => expandCall fuel (done ++ (← expandWords fuel [w])) ws

/-- A word as a pattern. -/
def expandPattern : Nat → Word → Sh (List Piece)
  | 0, _ => throw .endless
  | fuel + 1, w => do
    return patternOf (glyphMarks (← expandParts fuel false false false (withHome (← get) w)))

/-- Redirects the streams; false if one of them cannot be opened. -/
def openStreams : Nat → List Redirect → Sh Bool
  | 0, _ => throw .endless
  | _, [] => return true
  | fuel + 1, r :: rs => do
    let opened ← match r with
      | .file stream opening target =>
        let name ← expandText fuel false (withHome (← get) target)
        match ← openFile opening name with
        | some s =>
          modify fun m => m.setStream stream s
          pure true
        | none => pure false
      | .join stream target => joinStreams stream (← expandText fuel false target)
      | .document stream key =>
        let word := ((← get).documents.lookup key).getD []
        let s ← newFeed (.ofText (← expandText fuel true word))
        modify fun m => m.setStream stream s
        pure true
    if opened then openStreams fuel rs else return false

/-- Does what is to be done about the signals that have arrived. -/
def heed : Nat → Sh Unit
  | 0 => throw .endless
  | fuel + 1 => do
    let m ← get
    match m.arrival? (·.isDue m.clock) with
    | none => pure ()
    | some a =>
      let script ← receive a
      if !script.isEmpty then runHandler fuel script
      heed fuel

/-- Waits up to an instant, or for ever, unless a signal arrives. The answer is the status that
stands for it, or zero. -/
def await : Nat → Option Nat → Sh Nat
  | 0, _ => throw .endless
  | fuel + 1, instant => do
    let m ← get
    match m.arrival? fun a => instant.all (a.instant ≤ ·) with
    | some a =>
      set { m with clock := max m.clock a.instant }
      let script ← receive a
      if script.isEmpty then await fuel instant
      else
        runHandler fuel script
        return 128 + signalNumber a.signal
    | none =>
      match instant with
      | some t =>
        set { m with clock := max m.clock t }
        return 0
      | none => throw .endless

/-- Does what is to be done on a signal, which leaves the status as it was. -/
def runHandler : Nat → String → Sh Unit
  | 0, _ => throw .endless
  | fuel + 1, script => do
    let before ← get
    modify fun m => { m with tested := false }
    let _ ← runText fuel script
    modify fun m => { m with tested := before.tested, status := before.status }

/-- Runs a command of the shell that runs others; none if there is no such command. -/
def runSpecial : Nat → String → List String → Sh (Option Nat)
  | 0, _, _ => throw .endless
  | fuel + 1, name, args => do
    match name with
    | "eval" => return some (← runText fuel (" ".intercalate args))
    | "." => return some (← runFile fuel args)
    | "exec" =>
      let args := if args.head? = some "--" then args.drop 1 else args
      match args with
      | [] => return some 0
      | program :: _ =>
        modify fun m => { m with isLast := true, traps := m.traps.filter (·.2 == "") }
        throw (.exit (← runProgram fuel program args))
    | "command" =>
      let (found, args) ← optionsOf "pvV" args
      if found.contains 'v' ∨ found.contains 'V' then
        return some (← tellName (found.contains 'V') args)
      match args with
      | [] => return some 0
      | inner :: rest =>
        modify fun m => { m with speaker := none }
        return some (← runNamed fuel false inner rest)
    | "type" => return some (← typeNames args)
    | "wait" => return some (← runWait fuel args)
    | _ => return none

/-- Waits for jobs. -/
def runWait : Nat → List String → Sh Nat
  | 0, _ => throw .endless
  | fuel + 1, args => do
    match args with
    | [] =>
      let m ← get
      let woken ← await fuel (jobsEnd (ownJobs m))
      if woken = 0 then modify (·.reap fun j => j.shell == m.shell)
      return woken
    | arg :: rest =>
      let pid ← naturalOf arg
      let m ← get
      let status ← match (ownJobs m).find? (·.pid == pid) with
        | none => pure 127
        | some job =>
          let woken ← await fuel job.endsAt
          if woken ≠ 0 then pure woken
          else
            modify (·.reap fun j => j.pid == pid)
            match job.signal.filter fun _ => !job.isReaped ∧ job.endsAt.all (m.clock ≤ ·) with
            | some signal => mourn signal
            | none => pure job.status
      if rest.isEmpty then return status else runWait fuel rest

/-- Runs a command by its name. Functions may be passed by. -/
def runNamed : Nat → (functions : Bool) → String → List String → Sh Nat
  | 0, _, _, _ => throw .endless
  | fuel + 1, functions, name, args => do
    let m ← get
    match if functions ∧ !specialNames.contains name then m.functions.lookup name else none with
    | some body => runFunction fuel body args
    | none =>
      if specialNames.contains name ∨ plainNames.contains name then
        let result ← attempt <| speaking name do
          match builtin? name with
          | some command => command args
          | none => return (← runSpecial fuel name args).getD 127
        match result with
        | .ok status => return status
        | .error (.failure status) =>
          if specialNames.contains name ∧ functions then throw (.failure status)
          else return status
        | .error stop => throw stop
      else runProgram fuel name (name :: args)

/-- Runs a function with arguments. -/
def runFunction : Nat → Command → List String → Sh Nat
  | 0, _, _ => throw .endless
  | fuel + 1, body, args => do
    let before ← get
    if before.calls ≥ deepestCall then
      fail ("Maximum function recursion depth (" ++ toString deepestCall ++ ") reached")
    set { before with args := args, calls := before.calls + 1, loops := 0, isLast := false }
    let result ← attempt (runCommand fuel body)
    modify fun m => { m.giveBack before.saved with
      args := before.args
      calls := before.calls
      loops := before.loops
      tested := before.tested
      isLast := before.isLast }
    match result with
    | .ok status | .error (.leaveFunction status) => return status
    | .error stop => throw stop

/-- Runs the script in a file in the present shell. -/
def runFile : Nat → List String → Sh Nat
  | 0, _ => throw .endless
  | fuel + 1, args => do
    match args with
    | [] => return 0
    | name :: _ =>
      let m ← get
      let places := if isPath name then [""] else (programPlaces m).map (· ++ "/")
      let found := places.findSome? fun place =>
        (m.disk.files.lookup (resolve m.folder (place ++ name))).map fun bytes =>
          (place ++ name, bytes)
      match found with
      | some (path, bytes) =>
        let result ← attempt <| speaking path (runText fuel (textOf bytes))
        modify fun after => { after with tested := m.tested }
        match result with
        | .ok status | .error (.leaveFunction status) => return status
        | .error stop => throw stop
      | none =>
        if isPath name then fail ("cannot open " ++ name ++ ": No such file")
        else fail (name ++ ": not found")

/-- Finds a program by its name and runs it. The first of the words is the name that the program
is given. -/
def runProgram : Nat → String → List String → Sh Nat
  | 0, _, _ => throw .endless
  | fuel + 1, name, words => do
    let m ← get
    if name.isEmpty then
      complain ": Permission denied"
      return 127
    match findProgram m.disk m.folder (programPlaces m) name with
    | .ok path => runAt fuel path words
    | .error .notAllowed =>
      complain (name ++ ": Permission denied")
      return if isPath name then 126 else 127
    | .error .longName =>
      complain (name ++ ": File name too long")
      return if isPath name then 126 else 127
    | .error _ =>
      complain (name ++ ": not found")
      return 127

/-- Runs the program at a path. -/
def runAt : Nat → String → List String → Sh Nat
  | 0, _, _ => throw .endless
  | fuel + 1, path, words => do
    let called := words.head?.getD path
    let args := words.drop 1
    let base := lastPart path
    if !isProgramPath path then
      let m ← get
      let content := textOf ((m.disk.files.lookup path).getD [])
      match interpreter? content with
      | none => runShell fuel called (called :: args)
      | some program =>
        if shells.contains (lastPart program) ∧ isProgramPath program then
          runShell fuel program (called :: args)
        else if isProgramPath program then runAt fuel program (program :: called :: args)
        else
          complain (called ++ ": not found")
          return 127
    else if shells.contains base then runShell fuel called args
    else if base = "sleep" then
      match sleepPlan (workpiece (← get) called args {}) with
      | .ok span =>
        match ← pass span with
        | some signal => endedBy signal
        | none => return 0
      | .error text =>
        warn text
        return 1
    else if base = "kill" then kill args
    else
      let m ← get
      let given ← input
      match errand? base (workpiece m called args given) with
      | some e =>
        if base = "xargs" then setInput {}
        runErrand fuel base called e
      | none =>
        match tool? base with
        | none => return 1
        | some tool =>
          let done := tool (workpiece m called args given)
          match done.unread with
          | some f =>
            setInput f
            if given.isEndless ∧ f = {} ∧ !done.out.isEndless then throw .endless
          | none => pure ()
          match done.disk with
          | some d => if d ≠ m.disk then modify fun m => m.setDisk d
          | none => pure ()
          if done.complainsFirst then warn done.err
          let refusal ← put 1 done.out
          if !done.complainsFirst then warn done.err
          let isShut := base = "cat" ∧ (m.stream 1).isNone
          match if isShut then some "Bad file descriptor" else refusal with
          | none => return done.status
          | some reason =>
            let (text, status) := unwritten (workpiece m called args {}) base reason
            warn text
            return status

/-- Does what a program that starts other programs is asked for. -/
def runErrand : Nat → (base called : String) → Errand → Sh Nat
  | 0, _, _, _ => throw .endless
  | fuel + 1, base, called, e => do
    match e with
    | .settled status out err =>
      warn err
      match ← put 1 (.ofText out) with
      | none => return status
      | some reason =>
        warn (called ++ ": write error: " ++ reason ++ "\n")
        return 125
    | .within environment command =>
      let before ← get
      let names := environment.map Prod.fst
      modify fun m => { m with values := environment, exported := names }
      let status ← runDirect fuel base called command
      modify fun m => { m with values := before.values, exported := before.exported }
      return status
    | .limited limit command =>
      let before ← get
      let instant := before.clock + limit.span
      set { before with heard := false, arrivals := [⟨instant, limit.signal, none, true⟩] }
      let result ← attempt (runDirect fuel base called command)
      modify fun m => { m with
        heard := before.heard
        arrivals := before.arrivals ++ m.arrivals.filter (·.target.isSome) }
      let m ← get
      let isEndless := match result with
        | .error .endless => true
        | _ => false
      let last := if limit.signal = "KILL" then some 0 else limit.grace
      if m.clock < instant ∧ !isEndless then
        match result, m.fallen with
        | .ok _, some signal => endedBy signal
        | .ok status, none => return status
        | .error stop, _ => throw stop
      else if isEndless ∨ last.any (instant + · < m.clock) then
        let ending := instant + last.getD 0
        let count := m.writes.length - before.writes.length
        let fresh := (m.writes.take count).filter (·.instant ≤ ending)
        set { m with clock := ending, writes := fresh ++ m.writes.drop count }
        if last.isSome then endedBy 9
        else return if limit.keepsStatus then 128 + signalNumber limit.signal else 124
      else if limit.signal = "KILL" then endedBy 9
      else
        match result with
        | .ok status => return if limit.keepsStatus then status else 124
        | .error stop => throw stop
    | .repeatedly commands shows =>
      let status ← runAll fuel base called shows commands 0
      return if base = "find" then 0 else status

/-- Runs programs one after another, and tells whether one of them failed. -/
def runAll : Nat → (base called : String) → (shows : Bool) → List (List String) → Nat → Sh Nat
  | 0, _, _, _, _, _ => throw .endless
  | _, _, _, _, [], status => return status
  | fuel + 1, base, called, shows, command :: more, status => do
    if shows then warn (" ".intercalate (command.map shellQuoted) ++ "\n")
    let done ← runDirect fuel base called command
    let name := command.head?.getD ""
    if base = "find" then runAll fuel base called shows more status
    else if done = 126 ∨ done = 127 then return done
    else if done = 255 then
      warn (called ++ ": " ++ name ++ ": exited with status 255; aborting\n")
      return 124
    else
      match (← get).fallen with
      | some signal =>
        warn (called ++ ": " ++ name ++ ": terminated by signal " ++ toString signal ++ "\n")
        return 125
      | none => runAll fuel base called shows more (if done = 0 then status else 123)

/-- Runs a program for another program, which speaks if there is none. -/
def runDirect : Nat → (base called : String) → List String → Sh Nat
  | 0, _, _, _ => throw .endless
  | fuel + 1, base, called, command => do
    let m ← get
    let name := command.head?.getD ""
    let places := ((m.environment.lookup "PATH").getD "/bin:/usr/bin").splitOn ":"
    match findProgram m.disk m.folder places name with
    | .ok path =>
      let isQuiet := ["xargs", "find", "timeout"].contains base
      set { m with isLast := false, isQuiet := isQuiet, fallen := none }
      let status ← runAt fuel path command
      modify fun after => { after with isLast := m.isLast, isQuiet := m.isQuiet }
      return status
    | .error .notAllowed =>
      warn (called ++ ": " ++ refersTo base name ++ ": Permission denied\n")
      return 126
    | .error _ =>
      warn (called ++ ": " ++ refersTo base name ++ ": No such file or directory\n")
      match adviceFor? base name with
      | some advice => warn (called ++ ": " ++ advice ++ "\n")
      | none => pure ()
      return 127

/-- Runs a shell that is called with arguments. -/
def runShell : Nat → String → List String → Sh Nat
  | 0, _, _ => throw .endless
  | fuel + 1, called, args => do
    match invocation? called args with
    | .error text =>
      warn (called ++ ": 0: " ++ text ++ "\n")
      return 2
    | .ok call =>
      let fresh ← number
      let before ← get
      let replaces := before.isReplaced
      let pid := if replaces then before.shell else fresh
      set (before.forChild pid call)
      let result ← attempt (runCalled fuel called call)
      modify fun m => m.restore before
      match result with
      | .ok status => return status
      | .error (.killed victim signal) =>
        if victim ≠ pid ∨ replaces then throw (.killed victim signal)
        mourn signal
      | .error stop => throw stop

/-- Runs the script that a shell is called with, to its end. -/
def runCalled : Nat → String → Invocation → Sh Nat
  | 0, _, _ => throw .endless
  | fuel + 1, called, call => do
    let m ← get
    match call.script, call.file with
    | some script, _ => runToEnd fuel (runText fuel script)
    | none, some file =>
      match m.disk.read? (resolve m.folder file) with
      | some f => runToEnd fuel (runText fuel (textOf f.bytes))
      | none =>
        warn (called ++ ": 0: cannot open " ++ file ++ ": No such file\n")
        return 2
    | none, none =>
      let f ← input
      setInput {}
      runToEnd fuel (runText fuel (textOf f.bytes))

/-- Runs the body of a shell to its end and then what is to be done there. -/
def runToEnd : Nat → Sh Nat → Sh Nat
  | 0, _ => throw .endless
  | fuel + 1, body => do
    let status ← match ← attempt body with
      | .ok status => pure status
      | .error (.exit status) | .error (.failure status) | .error (.leaveFunction status) =>
        pure status
      | .error (.leaveLoop _) | .error (.nextRound _) => pure 0
      | .error stop => throw stop
    match (← get).traps.lookup "EXIT" with
    | some script =>
      modify fun m => { m with status := status, traps := m.traps.filter (·.1 != "EXIT") }
      match ← attempt (runText fuel script) with
      | .error (.exit asked) => return asked
      | .error (.killed victim signal) => throw (.killed victim signal)
      | .error .endless => throw .endless
      | _ => return status
    | none => return status

/-- Reads and runs a script in the present shell. -/
def runText : Nat → String → Sh Nat
  | 0, _ => throw .endless
  | fuel + 1, script => do runLines fuel (.ofText script 0) 0

/-- Reads and runs the lines of a script one by one. -/
def runLines : Nat → Reader → Nat → Sh Nat
  | 0, _, _ => throw .endless
  | fuel + 1, r, status => do
    let key := (← get).nextNumber
    match ({ r with nextKey := key, documents := [] } : Reader).next with
    | .error misread =>
      modify fun m => { m with line := misread.line }
      fail ("Syntax error: " ++ misread.cause.message)
    | .ok (c, r) =>
      modify fun m => { m with
        nextNumber := max m.nextNumber r.nextKey
        documents := r.documents ++ m.documents }
      match c with
      | none => return status
      | some c =>
        modify fun m => { m with isLast := false }
        let status ← runCommand fuel c
        runLines fuel r status

/-- Runs a command that others follow, or whose status is asked for, so that its failure ends
nothing. -/
def runInner : Nat → (tested : Bool) → Command → Sh Nat
  | 0, _, _ => throw .endless
  | fuel + 1, tested, c => do
    let before ← get
    set { before with tested := before.tested || tested, isLast := false }
    let status ← runCommand fuel c
    modify fun m => { m with tested := before.tested, isLast := before.isLast }
    return status

/-- Runs one command and keeps its status. -/
def runCommand : Nat → Command → Sh Nat
  | 0, _ => throw .endless
  | fuel + 1, c => do
    if (← get).has 'n' then return 0
    let status ← match c with
      | .nothing => pure (← get).status
      | .simple line assigned words redirects => runSimple fuel line assigned words redirects
      | .sequence a b =>
        let _ ← runInner fuel false a
        runCommand fuel b
      | .both a b =>
        let status ← runInner fuel true a
        if status = 0 then runCommand fuel b else pure status
      | .either a b =>
        let status ← runInner fuel true a
        if status = 0 then pure status else runCommand fuel b
      | .negation body => pure (if (← runInner fuel true body) = 0 then 1 else 0)
      | .pipe source sink => runPipe fuel source sink
      | .background body => runBackground fuel body
      | .subshell line body =>
        modify fun m => { m with line := line }
        inSubshell (runToEnd fuel (runCommand fuel body))
      | .redirected line body redirects =>
        modify fun m => { m with line := line }
        withStreams do
          if ← openStreams fuel redirects then runInner fuel false body else return 2
      | .branch condition yes no =>
        if (← runInner fuel true condition) = 0 then runCommand fuel yes
        else
          match no with
          | .nothing => pure 0
          | _ => runCommand fuel no
      | .loop untilSuccess condition body => inLoop (runLoop fuel untilSuccess condition body 0)
      | .each line name words body =>
        modify fun m => { m with line := line }
        let items ← expandWords fuel words
        inLoop (runEach fuel name items body 0)
      | .choose line subject cases =>
        modify fun m => { m with line := line }
        let text ← expandText fuel false (withHome (← get) subject)
        runChoice fuel text.toList cases
      | .define name body =>
        modify fun m => { m with
          functions := (name, body) :: m.functions.filter (·.1 != name) }
        pure 0
    modify fun m => { m with status := status }
    heed fuel
    let m ← get
    if m.has 'e' ∧ !m.tested ∧ status ≠ 0 then
      match c with
      | .simple .. | .pipe .. | .subshell .. => throw (.exit status)
      | _ => return status
    else return status

/-- Runs a simple command: assignments alone, or a command with its arguments. -/
def runSimple : Nat → Nat → List (String × Word) → List Word → List Redirect → Sh Nat
  | 0, _, _, _, _ => throw .endless
  | fuel + 1, line, assigned, words, redirects => do
    modify fun m => { m with line := line, outputStatus := 0 }
    let fields ← expandCall fuel [] words
    let stderr := (← get).stream 2
    match fields with
    | [] =>
      withStreams do
        if !(← openStreams fuel redirects) then return 2
        let values ← runAssignments fuel false assigned
        if !values.isEmpty then traceCommand stderr values []
        return (← get).outputStatus
    | name :: args =>
      let isSpecial := specialNames.contains name
      let run : Sh Nat := do
        let opened ← openStreams fuel redirects
        if !opened then
          if isSpecial then throw (.failure 2)
          return 2
        let before := (← get).saved
        let values ← runAssignments fuel (!isSpecial) assigned
        traceCommand stderr values fields
        let result ← attempt (runNamed fuel true name args)
        if !isSpecial then modify fun m => m.giveBack before
        match result with
        | .ok status => return status
        | .error stop => throw stop
      if name = "exec" ∧ args.isEmpty then run else withStreams run

/-- Makes the assignments in front of a command, for that command only perhaps. -/
def runAssignments : Nat → (forCommand : Bool) → List (String × Word) →
    Sh (List (String × String))
  | 0, _, _ => throw .endless
  | _, _, [] => return []
  | fuel + 1, forCommand, (name, w) :: more => do
    let value ← expandText fuel false (withHomes (← get) w)
    if forCommand then modify fun m => m.save name
    assign name value
    if forCommand then modify fun m => m.handDown name
    return (name, value) :: (← runAssignments fuel forCommand more)

/-- Runs two commands side by side, where one reads what the other writes. -/
def runPipe : Nat → Command → Command → Sh Nat
  | 0, _, _ => throw .endless
  | fuel + 1, source, sink => do
    let before ← get
    let (result, feed) ← capture (runToEnd fuel (runCommand fuel source))
    let sourceDone ← get
    let isEndless ← match result with
      | .ok _ => pure false
      | .error .endless => pure true
      | .error stop => throw stop
    let channel ← number
    modify fun m => { m.withLate before with
      clock := before.clock
      feeds := (channel, feed) :: m.feeds }
    let status ← inSubshell do
      modify fun m => m.setStream 0 (.feed channel)
      runToEnd fuel (runCommand fuel sink)
    let m ← get
    if isEndless then
      if (m.feeds.lookup channel).all (· = {}) then throw .endless
      return status
    else
      let arrivals := m.arrivals.map fun a =>
        if sourceDone.arrivals.contains { a with isLate := false } then { a with isLate := false }
        else a
      set { m with clock := max m.clock sourceDone.clock, arrivals := arrivals }
      return status

/-- Runs a command that the script does not wait for. -/
def runBackground : Nat → Command → Sh Nat
  | 0, _ => throw .endless
  | fuel + 1, body => do
    let pid ← number
    let before ← get
    let result ← attempt <| inProcess do
      modify fun m => { m.setStream 0 .nowhere with tested := false, job := pid }
      runToEnd fuel (runCommand fuel body)
    let m ← get
    let (status, signal, endsAt) ← match result with
      | .ok (.ok status) => pure (status, none, some m.clock)
      | .ok (.error signal) => pure (128 + signal, some signal, some m.clock)
      | .error .endless => pure (0, none, none)
      | .error stop => throw stop
    let job : Job := {
      pid := pid
      shell := before.shell
      status := status
      signal := signal
      endsAt := endsAt
      holds := heldChannels before body
      isParent := isParent body }
    set { m.withLate before with
      clock := before.clock
      jobs := job :: m.jobs
      lastJob := some pid }
    return 0

def runLoop : Nat → Bool → Command → Command → Nat → Sh Nat
  | 0, _, _, _, _ => throw .endless
  | fuel + 1, untilSuccess, condition, body, last => do
    match ← runRound fuel true condition with
    | (status, some goesOn) =>
      if goesOn then runLoop fuel untilSuccess condition body last else return status
    | (status, none) =>
      if (status = 0) = untilSuccess then return last
      match ← runRound fuel false body with
      | (status, some false) => return status
      | (status, _) => runLoop fuel untilSuccess condition body status

def runEach : Nat → String → List String → Command → Nat → Sh Nat
  | 0, _, _, _, _ => throw .endless
  | _, _, [], _, last => return last
  | fuel + 1, name, item :: items, body, _ => do
    assign name item
    match ← runRound fuel false body with
    | (status, some false) => return status
    | (status, _) => runEach fuel name items body status

/-- Runs a part of a loop once. Where the part says how the loop is to go on, the flag tells whether
it goes on at all. -/
def runRound : Nat → (tested : Bool) → Command → Sh (Nat × Option Bool)
  | 0, _, _ => throw .endless
  | fuel + 1, tested, body => do
    let before ← get
    let result ← attempt (runInner fuel tested body)
    match result with
    | .ok status => return (status, none)
    | .error (.leaveLoop levels) =>
      modify fun m => { m with tested := before.tested, status := 0 }
      if levels > 1 then throw (.leaveLoop (levels - 1))
      return (0, some false)
    | .error (.nextRound levels) =>
      modify fun m => { m with tested := before.tested, status := 0 }
      if levels > 1 then throw (.nextRound (levels - 1))
      return (0, some true)
    | .error stop => throw stop

/-- Runs the first body that has a pattern which matches a text. -/
def runChoice : Nat → List Char → List (List Word × Command) → Sh Nat
  | 0, _, _ => throw .endless
  | _, _, [] => return 0
  | fuel + 1, text, (patterns, body) :: more => do
    if ← matchesOne fuel text patterns then
      match body with
      | .nothing => return 0
      | _ => runCommand fuel body
    else runChoice fuel text more

/-- One of some patterns matches a text. -/
def matchesOne : Nat → List Char → List Word → Sh Bool
  | 0, _, _ => throw .endless
  | _, _, [] => return false
  | fuel + 1, text, w :: ws => do
    if matchesAll (← expandPattern fuel w) text then return true
    else matchesOne fuel text ws

end

end TaskPipeline.Shell
