import TaskPipeline.Json.Record
import TaskPipeline.Task.Transition

/-!
What a task store answers and how it can fail, and the two records kept beside the tasks: the
marker of the running pipeline and the fatal issue.
-/

namespace TaskPipeline

/-- What is wrong with a column of a row, stored or to be stored. -/
inductive ColumnError where
  /-- A name that its enumeration does not know. -/
  | unknownName (column : Nat) (cause : UnknownName)
  /-- A text that is not the JSON it should be. -/
  | badJson (column : Nat)
  | outOfRange (column : Nat) (value : Int)
  | wrongType (column : Nat) (name : String) (type : String)
  /-- Nothing is put into a column that needs a value. -/
  | needsValue (name : String)
  /-- A value is put into a column that another row has it in. -/
  | taken (name : String)
  deriving DecidableEq, Repr

def ColumnError.message : ColumnError → String
  | unknownName column cause =>
    "Conversion error from type Text at index: " ++ toString column ++ ", " ++ cause.message
  | badJson column => "Conversion error from type Text at index: " ++ toString column
  | outOfRange column value =>
    "Integer " ++ toString value ++ " out of range at index " ++ toString column
  | wrongType column name type =>
    "Invalid column type " ++ type ++ " at index: " ++ toString column ++ ", name: " ++ name
  | needsValue name => "NOT NULL constraint failed: tasks." ++ name
  | taken name => "UNIQUE constraint failed: tasks." ++ name

/-- Why a call of a store gives no answer: the variants of `StoreError`, and a panic. -/
inductive StoreError where
  /-- A row that cannot be read or stored. -/
  | row (cause : ColumnError)
  /-- A record beside the tasks that cannot be read. -/
  | record
  /-- The file of the store cannot be opened. -/
  | file
  | unknownBackend (name : String)
  | notFound (id : TaskId)
  | transition (cause : TransitionError)
  /-- The work of the call panicked in a task of its own, and the caller is told. -/
  | join
  /-- Nothing is returned: the call panics in its caller. -/
  | panicked
  deriving DecidableEq, Repr

def StoreError.message : StoreError → String
  | row cause => "sqlite error: " ++ cause.message
  | record => "serialization error"
  | file => "io error"
  | unknownBackend name =>
    "corrupt record: unknown store backend '" ++ name ++ "', expected 'sqlite' or 'memory'"
  | notFound id => "task not found: " ++ id
  | transition cause => cause.message
  | join => "task join error"
  | panicked => "attempt to add with overflow"

/-- How a call fails whose work is done in the caller. -/
def StoreError.inCaller : Fault → StoreError
  | .refused cause => transition cause
  | .overflow => panicked

/-- How a call fails whose work is done in a task of its own: `spawn_blocking`. -/
def StoreError.inTask : Fault → StoreError
  | .refused cause => transition cause
  | .overflow => join

/-- An answer of a store, or why there is none. -/
abbrev Answer (α : Type) := Except StoreError α

/-- `ClaimResult`. -/
inductive ClaimResult where
  | claimed (task : Task)
  /-- Someone else was faster, or the task may not be claimed any more. -/
  | alreadyClaimed
  deriving Repr

/-- Says which version runs, and that it is alive. -/
structure PipelineMarker where
  version : String
  pid : UInt32
  startedAt : Instant
  heartbeatAt : Instant
  deriving DecidableEq, Repr

/-- Why the pipeline was given up. -/
structure FatalIssue where
  reason : String
  restartCount : UInt32
  lastVersion : Option String
  recordedAt : Instant
  deriving DecidableEq, Repr

open Json

namespace PipelineMarker

/-- The marker of a pipeline that starts now: `write_pipeline_marker`. -/
def ofStart (version : String) (pid : UInt32) (now : Instant) : PipelineMarker :=
  ⟨version, pid, now, now⟩

def toJson (m : PipelineMarker) : Json :=
  .obj [
    ("version", .str m.version),
    ("pid", ofUInt32 m.pid),
    ("started_at", ofInt64 m.startedAt),
    ("heartbeat_at", ofInt64 m.heartbeatAt)]

def ofJson? (j : Json) : Option PipelineMarker := do
  let s ← j.slots ["version", "pid", "started_at", "heartbeat_at"]
  return {
    version := ← s.required "version" asString
    pid := ← s.required "pid" asUInt32
    startedAt := ← s.required "started_at" asInt64
    heartbeatAt := ← s.required "heartbeat_at" asInt64 }

end PipelineMarker

namespace FatalIssue

def toJson (f : FatalIssue) : Json :=
  .obj [
    ("reason", .str f.reason),
    ("restart_count", ofUInt32 f.restartCount),
    ("last_version", ofOption .str f.lastVersion),
    ("recorded_at", ofInt64 f.recordedAt)]

def ofJson? (j : Json) : Option FatalIssue := do
  let s ← j.slots ["reason", "restart_count", "last_version", "recorded_at"]
  return {
    reason := ← s.required "reason" asString
    restartCount := ← s.required "restart_count" asUInt32
    lastVersion := ← s.optional "last_version" (asOption asString)
    recordedAt := ← s.required "recorded_at" asInt64 }

end FatalIssue

end TaskPipeline
