import TaskPipeline.Json.Parser
import TaskPipeline.Json.Printer
import TaskPipeline.Json.Record
import TaskPipeline.Task.Basic

/-!
What a supervisor remembers from one run to the next, and how it is kept in a file: the text is
written beside the file first and then takes its place, so that a write that breaks off does no
harm.
-/

namespace TaskPipeline

/-- The texts of files, by path. -/
abbrev Files := String → Option String

namespace Files

def write (files : Files) (path text : String) : Files := fun p =>
  if p = path then some text else files p

/-- Moves a file to another path, over the file that is there. -/
def rename (files : Files) (source target : String) : Files := fun p =>
  if p = target then files source else if p = source then none else files p

end Files

/-- `SupervisorState`. -/
structure SupervisorState where
  restartCount : UInt32 := 0
  lastKnownVersion : Option String := none
  lastRestartAt : Option Instant := none
  lastRestartReason : Option String := none
  consecutiveProbeFailures : UInt32 := 0
  /-- Since when every probe has succeeded. -/
  healthySince : Option Instant := none
  /-- The restart budget was exhausted. -/
  fatal : Bool := false
  deriving DecidableEq, Repr

namespace SupervisorState

open Json

def toJson (s : SupervisorState) : Json :=
  .obj [
    ("restart_count", ofUInt32 s.restartCount),
    ("last_known_version", ofOption .str s.lastKnownVersion),
    ("last_restart_at", ofOption ofInt64 s.lastRestartAt),
    ("last_restart_reason", ofOption .str s.lastRestartReason),
    ("consecutive_probe_failures", ofUInt32 s.consecutiveProbeFailures),
    ("healthy_since", ofOption ofInt64 s.healthySince),
    ("fatal", .bool s.fatal)]

def fields : List String :=
  ["restart_count", "last_known_version", "last_restart_at", "last_restart_reason",
    "consecutive_probe_failures", "healthy_since", "fatal"]

def ofJson? (j : Json) : Option SupervisorState := do
  let s ← j.slots fields
  return {
    restartCount := ← s.required "restart_count" asUInt32
    lastKnownVersion := ← s.optional "last_known_version" (asOption asString)
    lastRestartAt := ← s.optional "last_restart_at" (asOption asInt64)
    lastRestartReason := ← s.optional "last_restart_reason" (asOption asString)
    consecutiveProbeFailures := ← s.required "consecutive_probe_failures" asUInt32
    healthySince := ← s.optional "healthy_since" (asOption asInt64)
    fatal := ← s.required "fatal" asBool }

/-- The text of the state file. -/
def fileText (s : SupervisorState) : String := s.toJson.toPrettyText

/-- The state in a file; without a file, that of a first run. -/
def ofFile? : Option String → Option SupervisorState
  | none => some {}
  | some text => do ofJson? (← Json.parse? text)

/-- Where a state is written before it takes the place of a file: the path of the file with another
extension. A name may begin with a point that belongs to no extension. -/
def temporaryPath (path : String) : String :=
  let (name, folder) := path.toList.reverse.span (· != '/')
  let stem := (name.dropWhile (· != '.')).drop 1
  String.ofList ((if stem.isEmpty then name else stem) ++ folder).reverse ++ ".json.tmp"

/-- Keeps the state in the file at a path: `SupervisorState::save`. -/
def save (s : SupervisorState) (path : String) (files : Files) : Files :=
  (files.write (temporaryPath path) s.fileText).rename (temporaryPath path) path

/-- The state that is kept in the file at a path: `SupervisorState::load`. -/
def load (path : String) (files : Files) : Option SupervisorState := ofFile? (files path)

end SupervisorState

end TaskPipeline
