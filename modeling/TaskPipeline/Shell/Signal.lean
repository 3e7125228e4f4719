import TaskPipeline.Shell.Machine

/-!
Signals: their names, what is said about a program that one of them has ended, and what is to be
done about one that arrives. Jobs end by signals, or when they are done.
-/

namespace TaskPipeline.Shell

open Host Sh

/-- The names of the signals with their numbers. -/
def signals : List (String × Nat) :=
  [("HUP", 1), ("INT", 2), ("QUIT", 3), ("ILL", 4), ("TRAP", 5), ("ABRT", 6), ("BUS", 7),
    ("FPE", 8), ("KILL", 9), ("USR1", 10), ("SEGV", 11), ("USR2", 12), ("PIPE", 13),
    ("ALRM", 14), ("TERM", 15), ("STKFLT", 16), ("CHLD", 17), ("CONT", 18), ("STOP", 19),
    ("TSTP", 20), ("TTIN", 21), ("TTOU", 22), ("URG", 23), ("XCPU", 24), ("XFSZ", 25),
    ("VTALRM", 26), ("PROF", 27), ("WINCH", 28), ("IO", 29), ("PWR", 30), ("SYS", 31)]

/-- What is said about a program that a signal has ended; some signals end it quietly. -/
def obituary? : Nat → Option String
  | 1 => some "Hangup"
  | 3 => some "Quit"
  | 4 => some "Illegal instruction"
  | 5 => some "Trace/breakpoint trap"
  | 6 => some "Aborted"
  | 7 => some "Bus error"
  | 8 => some "Floating point exception"
  | 9 => some "Killed"
  | 10 => some "User defined signal 1"
  | 11 => some "Segmentation fault"
  | 12 => some "User defined signal 2"
  | 14 => some "Alarm clock"
  | 15 => some "Terminated"
  | _ => none

/-- A program that gets the signal goes on. -/
def isHarmless (signal : Nat) : Bool := [17, 18, 23, 28].contains signal

/-- The name of a signal that is given by name or number. -/
def signalName? (s : String) : Option String :=
  match Text.digits? s.toList with
  | some 0 => some "EXIT"
  | some n => (signals.find? fun p => p.2 = n).map (·.1)
  | none =>
    let upper := s.map Char.toUpper
    let bare := if upper.startsWith "SIG" then String.ofList (upper.toList.drop 3) else upper
    if bare = "EXIT" then some bare else (signals.find? fun p => p.1 = bare).map (·.1)

def signalNumber (name : String) : Nat := (signals.lookup name).getD 0

/-- A process that gets the signal stands still. -/
def isHalting (signal : Nat) : Bool := [19, 20, 21, 22].contains signal

/-! ## Arrivals -/

/-- The signal has arrived. -/
def Arrival.isDue (a : Arrival) (clock : Nat) : Bool :=
  a.instant < clock || (a.instant == clock && !a.isLate)

namespace Machine

/-- The signal is one for this shell. -/
def awaits (m : Machine) (a : Arrival) : Bool :=
  match a.target with
  | some shell => shell == m.shell
  | none => !m.heard

/-- The first signal for this shell, of those that count. -/
def arrival? (m : Machine) (counts : Arrival → Bool) : Option Arrival :=
  (m.arrivals.filter fun a => m.awaits a && counts a).foldl
    (fun first a => if first.all (a.instant < ·.instant) then some a else first) none

/-- What is to be done about a signal, if something has been said about it. -/
def handler? (m : Machine) (signal : String) : Option String :=
  if signal = "KILL" ∨ signal = "STOP" then none else m.traps.lookup signal

/-- The signal ends the shell. -/
def diesOf (m : Machine) (signal : String) : Bool :=
  (m.handler? signal).isNone && !isHarmless (signalNumber signal)

/-- The signal that has arrived and ends this shell. -/
def doom? (m : Machine) : Option Arrival :=
  m.arrival? fun a => a.isDue m.clock && m.diesOf a.signal

/-- A shell that starts now has missed the signal that was sent to all. -/
def missed (m : Machine) : Bool := m.arrivals.any fun a => a.target.isNone && a.isDue m.clock

/-- The signals that a shell on its own has sent come behind what others do at that time. -/
def withLate (m before : Machine) : Machine :=
  let sent := m.arrivals.drop before.arrivals.length
  { m with arrivals := before.arrivals ++ sent.map fun a => { a with isLate := true } }

/-- A program is run in the place of the shell. -/
def isReplaced (m : Machine) : Bool := m.isLast && m.traps.all (·.2 == "")

end Machine

/-- Lets a span pass, or all time, in which a program runs. The answer is the signal that ends the
program before. -/
def pass (span : Option Nat) : Sh (Option Nat) := do
  let m ← get
  let hits (a : Arrival) : Bool :=
    a.target.isNone && !a.isDue m.clock && m.clock ≤ a.instant &&
      span.all fun n => a.instant < m.clock + n
  let hit := m.arrivals.find? hits
  let arrivals := m.arrivals.map fun b => if some b = hit then { b with isLate := false } else b
  match hit.filter fun a =>
      m.handler? a.signal ≠ some "" ∧ !isHarmless (signalNumber a.signal), span with
  | some a, _ =>
    set { m with arrivals := arrivals, clock := a.instant }
    return some (signalNumber a.signal)
  | none, some n =>
    set { m with arrivals := arrivals, clock := m.clock + n }
    return none
  | none, none => throw .endless

/-! ## Shells of their own -/

/-- Says how a program was ended by a signal, and gives the status that stands for it. -/
def mourn (signal : Nat) : Sh Nat := do
  let m ← get
  set { m with fallen := some signal }
  match obituary? signal with
  | some text => if !m.isQuiet ∧ m.doom?.isNone then warn (text ++ "\n")
  | none => pure ()
  return 128 + signal

/-- A signal ends a program that this shell runs. -/
def endedBy (signal : Nat) : Sh Nat := do
  let m ← get
  if m.isReplaced then throw (.killed m.shell signal)
  mourn signal

/-- Runs a body in a shell of its own: what it changes for itself is taken back. The answer is its
status, or the signal that ended it. -/
def inProcess (body : Sh Nat) : Sh (Except Nat Nat) := do
  let shell ← number
  let before ← get
  modify fun m => { m with
    shell := shell
    traps := m.traps.filter (·.2 == "")
    heard := m.missed
    isQuiet := false
    loops := 0
    isLast := true }
  let result ← attempt body
  modify fun m => m.restore before
  match result with
  | .ok status | .error (.exit status) | .error (.failure status)
  | .error (.leaveFunction status) => return .ok status
  | .error (.leaveLoop _) | .error (.nextRound _) => return .ok 0
  | .error (.killed victim signal) =>
    if victim = shell then return .error signal else throw (.killed victim signal)
  | .error .endless => throw .endless

/-- Runs a body in a shell of its own and tells its status. -/
def inSubshell (body : Sh Nat) : Sh Nat := do
  match ← inProcess body with
  | .ok status => return status
  | .error signal => mourn signal

/-- When all of some jobs will have ended; none if one of them never does. -/
def jobsEnd (jobs : List Job) : Option Nat :=
  jobs.foldl (fun t j => do return max (← t) (← j.endsAt)) (some 0)

/-- What comes of a body that writes to a channel of its own: how it ended and what was written,
when all that can write there have ended. -/
def capture (body : Sh Nat) : Sh (Except Stop Nat × Feed) := do
  let channel ← number
  let result ← attempt <| inSubshell do
    modify fun m => m.setStream 1 (.channel channel)
    body
  let m ← get
  let closesAt := jobsEnd (m.jobs.filter (·.holds.contains channel))
  set { m with
    clock := max m.clock (closesAt.getD 0)
    writes := m.writes.filter (·.channel != channel) }
  let result := if closesAt.isNone then .error .endless else result
  return (result, m.written channel)

/-! ## Quoting -/

/-- A text in single quotes; single quotes in it stand in double quotes. -/
def quotedValue : Bool → List Char → String
  | inDouble, [] => if inDouble then "\"" else "'"
  | inDouble, c :: cs =>
    if c = '\'' then (if inDouble then "'" else "'\"'") ++ quotedValue true cs
    else (if inDouble then "\"'" else "") ++ String.singleton c ++ quotedValue false cs

def quoteValue (s : String) : String := "'" ++ quotedValue false s.toList

/-! ## Traps -/

/-- Whole numbers from zero on; other texts are errors. -/
def naturalOf (s : String) : Sh Nat := do
  let n := (Text.digits? (s.toList.dropWhile (· == ' '))).filter (· ≤ 2147483647)
  match n with
  | some n => return n
  | none => fail ("Illegal number: " ++ s)

/-- Sets or clears what is to be done on some signals, or shows it. -/
def trap (args : List String) : Sh Nat := do
  let args := if args.head? = some "--" then args.drop 1 else args
  match args with
  | [] =>
    let m ← get
    let order := "EXIT" :: signals.map (·.1)
    let shown := order.filterMap fun name =>
      (m.traps.lookup name).map fun action =>
        "trap -- " ++ quoteValue action ++ " " ++ name ++ "\n"
    print (String.join shown).toList
  | first :: rest =>
    let (action, names) :=
      if rest.isEmpty ∨ (Text.digits? first.toList).isSome then (none, args)
      else if first = "-" then (none, rest)
      else (some first, rest)
    for name in names do
      match signalName? name with
      | none =>
        warn ("trap: " ++ name ++ ": bad trap\n")
        return 1
      | some signal =>
        modify fun m =>
          let others := m.traps.filter (·.1 != signal)
          match action with
          | some text => { m with traps := (signal, text) :: others }
          | none => { m with traps := others }
    return 0

/-! ## Jobs -/

/-- The jobs of the present shell. -/
def ownJobs (m : Machine) : List Job := m.jobs.filter (·.shell == m.shell)

/-- Ends a job by a signal if it is still running, and takes back what it would have written. What
it has started goes on. -/
def strike (m : Machine) (signal : Nat) (j : Job) : Machine :=
  if !j.endsAt.all (m.clock < ·) ∨ signal = 0 ∨ isHarmless signal then m
  else
    let struck : Job :=
      if isHalting signal then { j with endsAt := none }
      else { j with endsAt := some m.clock, status := 128 + signal, signal := some signal }
    let left := if j.isParent ∧ j.endsAt.isSome then [{ j with pid := 0, shell := 0 }] else []
    { m with
      jobs := left ++ m.jobs.map fun k => if k.pid = j.pid then struck else k
      writes := m.writes.filter fun w => w.job != j.pid || w.instant ≤ m.clock }

/-- The process of a job is still there. -/
def Job.isThere (clock : Nat) (j : Job) : Bool := !j.isReaped && j.endsAt.all (clock ≤ ·)

/-- Sends a signal to a process; false if there is no such process. -/
def sendSignal (signal : String) (target : Nat) : Sh Bool := do
  let m ← get
  let number := signalNumber signal
  if target = m.pid ∨ m.ancestors.contains target then
    if number = 0 ∨ isHarmless number then return true
    if target = m.shell ∧ m.diesOf signal then
      if isHalting number then throw .endless
      throw (.killed m.shell number)
    let arrival : Arrival := ⟨m.clock, signal, some target, false⟩
    set { m with arrivals := m.arrivals ++ [arrival] }
    return true
  else
    match m.jobs.find? fun j => j.pid == target && j.isThere m.clock with
    | some j =>
      set (strike m number j)
      return true
    | none => return false

/-- A signal that an option of `kill` names. -/
def optionSignal? (s : String) : Option String :=
  if s.startsWith "-" ∧ s.length > 1 then signalName? (String.ofList (s.toList.drop 1)) else none

/-- The process that a text names: a number, or a job, whose processes are no group. -/
def processOf (s : String) : Sh Nat := do
  match s.toList with
  | '%' :: rest =>
    let count := (ownJobs (← get)).length
    if rest.isEmpty ∨ rest = ['%'] ∨ rest = ['+'] then
      if count = 0 then fail "No current job"
      return 0
    match Text.digits? rest with
    | some n => if 0 < n ∧ n ≤ count then return 0 else fail ("No such job: " ++ s)
    | none => fail ("No such job: " ++ s)
  | '-' :: rest => naturalOf (String.ofList rest)
  | _ => naturalOf s

/-- Sends a signal to some processes. -/
def killAll (signal : String) (targets : List String) : Sh Nat := do
  let mut status := 0
  for target in targets do
    if !(← sendSignal signal (← processOf target)) then
      complain "No such process\n"
      status := 1
  return status

def killUsage : String :=
  "Usage: kill [-s sigspec | -signum | -sigspec] [pid | job]... or\nkill -l [exitstatus]"

/-- Sends a signal to processes, or shows the names of signals. -/
def kill (args : List String) : Sh Nat := do
  match args with
  | [] => fail killUsage
  | "-l" :: rest =>
    match rest with
    | [] =>
      let names := "0" :: signals.map (·.1)
      print (String.join (names.map (· ++ "\n"))).toList
    | s :: _ =>
      let n ← naturalOf s
      let number := if n > 128 then n - 128 else n
      match signals.find? fun p => p.2 = number with
      | some (name, _) => print (name ++ "\n").toList
      | none => fail ("invalid signal number or exit status: " ++ s)
  | "-s" :: name :: targets =>
    match signalName? name with
    | some signal => if targets.isEmpty then fail killUsage else killAll signal targets
    | none => fail ("invalid signal number or name: " ++ name)
  | first :: rest =>
    if first = "--" then killAll "TERM" rest
    else
      match optionSignal? first with
      | some signal => if rest.isEmpty then fail killUsage else killAll signal rest
      | none =>
        match first.toList with
        | '-' :: c :: _ => fail ("Illegal option -" ++ String.singleton c)
        | _ => killAll "TERM" args

end TaskPipeline.Shell
