import TaskPipeline.Host.Catalog
import TaskPipeline.Shell.Script
import TaskPipeline.Text.Numeral

/-!
What a running shell works with: its parameters, its streams, the disk, the jobs it has left to
themselves and a clock that passes only while it waits.
-/

namespace TaskPipeline.Shell

open Host

/-- Where a stream goes, or what it comes from. -/
inductive Stream where
  | channel (n : Nat)
  | file (path : String)
  | feed (n : Nat)
  | nowhere
  /-- A file that takes nothing. -/
  | full
  deriving DecidableEq, Repr

/-- Why a shell does not go on to the next command. -/
inductive Stop where
  | exit (status : Nat)
  /-- Something went wrong that only some commands survive. -/
  | failure (status : Nat)
  | killed (pid : Nat) (signal : Nat)
  | leaveLoop (levels : Nat)
  | nextRound (levels : Nat)
  | leaveFunction (status : Nat)
  /-- It goes on for ever. -/
  | endless
  deriving DecidableEq, Repr

structure Job where
  pid : Nat
  /-- The shell that has started it. -/
  shell : Nat
  status : Nat
  /-- The signal that ends it. -/
  signal : Option Nat := none
  /-- None if it never ends. -/
  endsAt : Option Nat
  /-- The channels that it can write to. -/
  holds : List Nat
  /-- Programs that it has started may outlive it. -/
  isParent : Bool := false
  /-- Its end has been waited for. -/
  isReaped : Bool := false
  deriving Repr

/-- Something that was written. -/
structure Written where
  channel : Nat
  instant : Nat
  feed : Feed
  /-- The job that it comes from; zero if it comes from none. -/
  job : Nat

/-- A signal on its way. -/
structure Arrival where
  instant : Nat
  signal : String
  /-- The shell that it is sent to; none if it is sent to all processes. -/
  target : Option Nat
  /-- It arrives behind all that takes no time at that instant. -/
  isLate : Bool
  deriving DecidableEq, Repr

/-- What a parameter was before a function made it its own. -/
structure Saved where
  name : String
  value : Option String
  isExported : Bool

/-- The number of the process that was launched first. -/
def firstPid : Nat := 100

/-- The channels of the two streams of the outermost shell. -/
def outChannel : Nat := 1

def errChannel : Nat := 2

/-- What separates fields unless something else is said. -/
def usualSeparators : String := " \t\n"

structure Machine where
  /-- Milliseconds since the start. -/
  clock : Nat := 0
  disk : Disk := {}
  /-- The disk at the instants at which it changed, the last one first. -/
  past : List (Nat × Disk) := []
  folder : String
  values : List (String × String) := []
  exported : List String := []
  /-- The parameters that cannot be assigned to. -/
  fixed : List String := []
  /-- What the running function has to give back. -/
  saved : List Saved := []
  functions : List (String × Command) := []
  /-- The texts of the documents in scripts. -/
  documents : List (Nat × Word) := []
  name : String := "sh"
  args : List String := []
  pid : Nat := firstPid
  /-- The number of the shell, which its subshells do not share. -/
  shell : Nat := firstPid
  /-- The shells that have started this one, the nearest first. -/
  ancestors : List Nat := []
  status : Nat := 0
  /-- The status of the last command whose output was taken into a word. -/
  outputStatus : Nat := 0
  line : Nat := 0
  /-- The command that speaks in messages. -/
  speaker : Option String := none
  /-- What to do on a signal, by its name; nothing if the text is empty. -/
  traps : List (String × String) := []
  streams : List (Nat × Stream) :=
    [(0, .nowhere), (1, .channel outChannel), (2, .channel errChannel)]
  feeds : List (Nat × Feed) := []
  /-- The feeds that are the contents of files. -/
  fileFeeds : List Nat := []
  /-- What was written to the channels, the last first. -/
  writes : List Written := []
  /-- The next number for a channel, a process or a document. -/
  nextNumber : Nat := 101
  jobs : List Job := []
  lastJob : Option Nat := none
  /-- The job that the present command belongs to; zero if it belongs to none. -/
  job : Nat := 0
  /-- The letters of the options that are on. -/
  options : List Char := []
  /-- The outcome of the present command is asked for. -/
  tested : Bool := false
  /-- No command is to follow the present one. -/
  isLast : Bool := false
  /-- How many loops and functions are running around the present command. -/
  loops : Nat := 0
  calls : Nat := 0
  /-- How far the letters of an argument have been gone through. -/
  letterAt : Nat := 0
  /-- Nothing is said about a program that a signal ends. -/
  isQuiet : Bool := false
  /-- The signal that has ended the last program. -/
  fallen : Option Nat := none
  arrivals : List Arrival := []
  /-- The shell has got the signal that is sent to all. -/
  heard : Bool := false

abbrev Sh := ExceptT Stop (StateM Machine)

namespace Machine

def has (m : Machine) (option : Char) : Bool := m.options.contains option

/-- The letters of the options, in the order in which they are shown. -/
def optionLetters (m : Machine) : String :=
  String.ofList ("ubaCEVvxsnmiIfe".toList.filter m.has)

/-- The value of a parameter that has a name of its own. -/
def lookup (m : Machine) (name : String) : Option String :=
  match name with
  | "?" => some (toString m.status)
  | "$" => some (toString m.pid)
  | "#" => some (toString m.args.length)
  | "!" => m.lastJob.map toString
  | "-" => some m.optionLetters
  | "0" => some m.name
  | "LINENO" => some (toString m.line)
  | "PPID" => some (toString (m.ancestors.head?.getD 1))
  | _ =>
    match Text.digits? name.toList with
    | some n => m.args[n - 1]?
    | none => m.values.lookup name

def value (m : Machine) (name : String) : String := (m.lookup name).getD ""

/-- The characters that separate fields. -/
def separators (m : Machine) : Option String := m.values.lookup "IFS"

def setValue (m : Machine) (name value : String) : Machine :=
  { m with
    values := (name, value) :: m.values.filter (·.1 != name)
    exported := if m.has 'a' && !m.exported.contains name then name :: m.exported else m.exported
    letterAt := if name = "OPTIND" then 0 else m.letterAt }

def handDown (m : Machine) (name : String) : Machine :=
  if m.exported.contains name then m else { m with exported := name :: m.exported }

def unset (m : Machine) (name : String) : Machine :=
  { m with
    values := m.values.filter (·.1 != name)
    exported := m.exported.filter (· != name) }

/-- Keeps what a parameter is, to be given back later. -/
def save (m : Machine) (name : String) : Machine :=
  { m with saved := ⟨name, m.values.lookup name, m.exported.contains name⟩ :: m.saved }

/-- Gives back what was saved since then. -/
def giveBack (m : Machine) (before : List Saved) : Machine :=
  let m := (m.saved.take (m.saved.length - before.length)).foldl (fun m s =>
    let m := m.unset s.name
    let m := match s.value with
      | some v => { m with values := (s.name, v) :: m.values }
      | none => m
    if s.isExported then m.handDown s.name else m) m
  { m with saved := before }

def setDisk (m : Machine) (d : Disk) : Machine :=
  { m with disk := d, past := (m.clock, d) :: m.past }

/-- The variables that a program gets. -/
def environment (m : Machine) : List (String × String) :=
  m.values.filter fun v => m.exported.contains v.1

/-- Takes back what a shell of its own may change for itself. -/
def restore (m before : Machine) : Machine :=
  { before with
    clock := m.clock
    disk := m.disk
    past := m.past
    feeds := m.feeds
    fileFeeds := m.fileFeeds
    writes := m.writes
    documents := m.documents
    nextNumber := m.nextNumber
    jobs := m.jobs
    arrivals := m.arrivals }

def stream (m : Machine) (n : Nat) : Option Stream := m.streams.lookup n

def setStream (m : Machine) (n : Nat) (s : Stream) : Machine :=
  { m with streams := (n, s) :: m.streams.filter (·.1 != n) }

def closeStream (m : Machine) (n : Nat) : Machine :=
  { m with streams := m.streams.filter (·.1 != n) }

/-- What was written to a channel, in the order of time. -/
def written (m : Machine) (channel : Nat) : Feed :=
  let mine := (m.writes.filter (·.channel == channel)).reverse
  (mine.mergeSort fun a b => a.instant ≤ b.instant).foldl (fun f w => f.append w.feed) {}

end Machine

namespace Sh

def number : Sh Nat := do
  let m ← get
  set { m with nextNumber := m.nextNumber + 1 }
  return m.nextNumber

/-- Writes to a stream. -/
def putTo (s : Stream) (f : Feed) : Sh Unit :=
  modify fun m =>
    if f = {} then m
    else
      match s with
      | .channel n => { m with writes := ⟨n, m.clock, f, m.job⟩ :: m.writes }
      | .file path => m.setDisk (m.disk.append path f.bytes)
      | .feed _ | .nowhere | .full => m

/-- Writes to where a stream goes, or says why that cannot be done. -/
def put (stream : Nat) (f : Feed) : Sh (Option String) := do
  if f = {} then return none
  match (← get).stream stream with
  | none => return some "Bad file descriptor"
  | some .full => return some "No space left on device"
  | some s =>
    putTo s f
    match s with
    | .channel _ => return none
    | _ => if f.isEndless then throw .endless else return none

def warn (text : String) : Sh Unit := do
  let _ ← put 2 (.ofText text)

/-- A message of the shell about the present line of the script. -/
def complain (text : String) : Sh Unit := do
  let m ← get
  let speaker := (m.speaker.map (· ++ ": ")).getD ""
  warn (m.name ++ ": " ++ toString m.line ++ ": " ++ speaker ++ text ++ "\n")

/-- Complains and gives up. -/
def fail {α : Type} (text : String) : Sh α := do
  complain text
  throw (.failure 2)

/-- Prints for a command of the shell, and tells its status. -/
def print (text : List Char) : Sh Nat := do
  match ← put 1 (.ofText (String.ofList text)) with
  | none => return 0
  | some _ =>
    complain ((← get).speaker.getD "" ++ ": I/O error")
    return 1

/-- What is left of the input. -/
def input : Sh Feed := do
  let m ← get
  match m.stream 0 with
  | some (.feed n) => return (m.feeds.lookup n).getD {}
  | _ => return {}

def setInput (f : Feed) : Sh Unit :=
  modify fun m =>
    match m.stream 0 with
    | some (.feed n) => { m with feeds := (n, f) :: m.feeds.filter (·.1 != n) }
    | _ => m

/-- A stream that something can be read from. -/
def newFeed (f : Feed) : Sh Stream := do
  let n ← number
  modify fun m => { m with feeds := (n, f) :: m.feeds }
  return .feed n

/-- A stream that the contents of a file can be read from. -/
def newFileFeed (f : Feed) : Sh Stream := do
  let n ← number
  modify fun m => { m with feeds := (n, f) :: m.feeds, fileFeeds := n :: m.fileFeeds }
  return .feed n

/-- The absolute path that a path means here. -/
def pathOf (path : String) : Sh String := do return resolve (← get).folder path

/-- Assigns to a parameter, which is an error if it is fixed. -/
def assign (name value : String) : Sh Unit := do
  let m ← get
  if m.fixed.contains name then fail (name ++ ": is read only")
  set (m.setValue name value)

/-- Runs something and tells how it ended. -/
def attempt {α : Type} (body : Sh α) : Sh (Except Stop α) := ExceptT.lift body.run

/-- Runs a body with streams of its own. -/
def withStreams {α : Type} (body : Sh α) : Sh α := do
  let before := (← get).streams
  let result ← attempt body
  modify fun m => { m with streams := before }
  match result with
  | .ok v => return v
  | .error stop => throw stop

/-- Runs a command of the shell that speaks in its own name. -/
def speaking {α : Type} (name : String) (body : Sh α) : Sh α := do
  let before := (← get).speaker
  modify fun m => { m with speaker := some name }
  let result ← attempt body
  modify fun m => { m with speaker := before }
  match result with
  | .ok v => return v
  | .error stop => throw stop

end Sh

end TaskPipeline.Shell
