import TaskPipeline.Executor.Program
import TaskPipeline.Shell.Run

/-!
Running programs on a host with a shell and its tools: what comes of a program that is launched.
Those who launch programs take these answers as a parameter.
-/

namespace TaskPipeline.Host

open Shell

/-- What came of a program on this host, and the disk. -/
structure Stay extends Ran where
  disk : Disk
  /-- The disk at the instants at which it changed, the last one first. -/
  past : List (Nat × Disk)

/-- The texts that a program is given. -/
def textsOf (p : Program) : List String :=
  p.name :: p.args ++ p.environment.map (fun v => v.1 ++ "=" ++ v.2) ++ p.folder.toList

/-- The same program with raw texts. -/
def rawProgram (p : Program) : Program where
  name := rawOf p.name
  args := p.args.map rawOf
  folder := p.folder.map rawOf
  environment := p.environment.map fun v => (v.1, rawOf v.2)

/-- The bytes that a text for a program cannot reach. -/
def textLimit : Nat := 131072

/-! ## Running -/

/-- The steps that a program may take before it counts as one that never ends. -/
def runFuel : Nat := 10000

/-- When both the program and all jobs that hold its streams have ended. -/
def closing (m : Machine) (exitsAt : Option Nat) : Option Nat := do
  let holders := m.jobs.filter fun j => j.holds.contains outChannel || j.holds.contains errChannel
  return max (← exitsAt) (← jobsEnd holders)

/-- What came of a program that stopped in a machine. -/
def stayOf (stopped : Except Stop Nat) (m : Machine) : Stay :=
  let out := m.written outChannel
  let err := m.written errChannel
  let (exit, exitsAt) : Exit × Option Nat :=
    if out.isEndless ∨ err.isEndless then (.code 0, none)
    else
      match stopped with
      | .ok status | .error (.exit status) | .error (.failure status)
      | .error (.leaveFunction status) => (.code (status % 256), some m.clock)
      | .error (.killed _ signal) => (.signal signal, some m.clock)
      | .error (.leaveLoop _) | .error (.nextRound _) => (.code 0, some m.clock)
      | .error .endless =>
        match m.arrival? fun a => m.handler? a.signal != some "" with
        | some a => (.signal (signalNumber a.signal), some a.instant)
        | none => (.code 0, none)
  { exit := exit
    exitsAt := exitsAt
    closesAt := closing m exitsAt
    out := out.bytes
    err := err.bytes
    disk := m.disk
    past := m.past }

/-- Launches a program in a folder. A signal to terminate may arrive at some instant. -/
def launch (p : Program) (d : Disk) (folder : String) (terminatedAt : Option Nat) :
    Except LaunchFailure Stay := do
  let p := rawProgram p
  if (textsOf p).any fun s => s.toList.contains '\x00' then throw .badText
  let inner := (p.folder.map (resolve folder)).getD folder
  if p.folder = some "" ∨ !d.hasFolder inner then
    throw (if p.folder ≠ some "" ∧ (d.hasFile inner ∨ d.passesFile inner) then .noFolder
      else .missing)
  if (textsOf p).any fun s => s.length ≥ textLimit then throw .muchText
  let path ← findProgram d inner (standingPath.splitOn ":") p.name
  let environment := p.environment ++ standingEnvironment
  let m : Machine := {
    disk := d
    folder := inner
    values := environment
    exported := environment.map (·.1)
    isLast := true
    arrivals := terminatedAt.toList.map fun t => ⟨t, "TERM", none, true⟩ }
  let (stopped, m) := (runAt runFuel path (p.name :: p.args)).run.run m
  return stayOf stopped m

/-! ## Answers -/

/-- What comes of a program in a folder, or why it cannot be launched. -/
def answer (d : Disk) (folder : String) (p : Program) (terminatedAt : Option Nat) :
    Except String Ran :=
  match launch p d folder terminatedAt with
  | .ok stay => .ok stay.toRan
  | .error e => .error e.message

/-- The same with the disk afterwards. -/
def answerOn (folder : String) (d : Disk) (p : Program) : Except String (Ran × Disk) :=
  match launch p d folder none with
  | .ok stay => .ok (stay.toRan, stay.disk)
  | .error e => .error e.message

/-- When a file is there, from an instant on, while a program runs that may be asked to end, and
whose processes end at some instant perhaps. -/
def fileSince (d : Disk) (folder : String) (p : Program) (askedAt endsAt : Option Nat)
    (clock : Nat) (name : String) : Option Nat := do
  let stay ← (launch p d folder askedAt).toOption
  let path := resolve folder (rawOf name)
  let past := stay.past.filter fun change => endsAt.all (change.1 ≤ ·)
  if (((past.find? (·.1 ≤ clock)).map (·.2)).getD d).has path then return clock
  let change ← (past.reverse.filter (clock < ·.1)).find? (·.2.has path)
  return change.1

end TaskPipeline.Host
