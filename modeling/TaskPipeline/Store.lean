import TaskPipeline.Store.Memory
import TaskPipeline.Store.Table

/-!
Task stores of either kind, and their operations: the trait `TaskStore` with its two
implementations. Each operation is one step: an answer and the store afterwards. The clock reading
that an operation goes by, `now_ms`, is an argument.
-/

namespace TaskPipeline

inductive Store where
  | memory (s : MemoryStore)
  | table (s : TableStore)
  deriving Repr

namespace Store

/-- The empty store of a backend: `create_task_store`. -/
def empty? (backend : String) : Answer Store :=
  if backend = "memory" then .ok (.memory {})
  else if backend = "sqlite" then .ok (.table {})
  else .error (.unknownBackend backend)

/-- A step of the store inside. -/
def lift {α σ : Type} (wrap : σ → Store) (step : Answer α × σ) : Answer α × Store :=
  (step.1, wrap step.2)

/-- Stores a new task under an id. -/
def create (s : Store) (id : TaskId) (new : NewTask) (maxAttempts : UInt32) (now : Instant) :
    Answer Task × Store :=
  match s with
  | memory m => lift memory (m.create id new maxAttempts now)
  | table t => lift table (t.create id new maxAttempts now)

/-- The task with an id. -/
def get (s : Store) (id : TaskId) : Answer Task :=
  match s with
  | memory m => m.get id
  | table t => t.get id

/-- A page of the tasks, the newest first. -/
def list (s : Store) (f : TaskFilter) : Answer (List Task) :=
  match s with
  | memory m => m.list f
  | table t => t.list f

/-- All tasks. -/
def snapshot (s : Store) : Answer (List Task) :=
  match s with
  | memory m => m.snapshot
  | table t => t.snapshot

/-- The tasks that may be claimed now, the oldest first; no types mean all types. -/
def claimable (s : Store) (types : List TaskType) (limit : UInt64) (now : Instant) :
    Answer (List Task) :=
  match s with
  | memory m => m.claimable types limit now
  | table t => t.claimable types limit now

/-- Claims a task for a worker, if it may be claimed now. -/
def claim (s : Store) (id : TaskId) (worker : WorkerId) (now : Instant) :
    Answer ClaimResult × Store :=
  match s with
  | memory m => lift memory (m.claim id worker now)
  | table t => lift table (t.claim id worker now)

/-- Opens an attempt of a claimed task. -/
def start (s : Store) (id : TaskId) (worker : WorkerId) (now : Instant) : Answer Task × Store :=
  match s with
  | memory m => lift memory (m.start id worker now)
  | table t => lift table (t.start id worker now)

/-- A sign of life from the holder of a task. -/
def touch (s : Store) (id : TaskId) (worker : WorkerId) (now : Instant) : Answer Unit × Store :=
  match s with
  | memory m => lift memory (m.touch id worker now)
  | table t => lift table (t.touch id worker now)

/-- Settles an attempt, unless it is settled already. -/
def recordOutcome (s : Store) (id : TaskId) (attempt : UInt32) (decision : Decision)
    (now : Instant) : Answer (Applied × Task) × Store :=
  match s with
  | memory m => lift memory (m.recordOutcome id attempt decision now)
  | table t => lift table (t.recordOutcome id attempt decision now)

/-- Decides a task that waits for a decision. -/
def resolve (s : Store) (id : TaskId) (resolution : Resolution) (output : Option String)
    (now : Instant) :
    Answer Task × Store :=
  match s with
  | memory m => lift memory (m.resolve id resolution output now)
  | table t => lift table (t.resolve id resolution output now)

/-- Puts a failed task back. -/
def reopen (s : Store) (id : TaskId) (now : Instant) : Answer Task × Store :=
  match s with
  | memory m => lift memory (m.reopen id now)
  | table t => lift table (t.reopen id now)

/-- Withdraws a pending task. -/
def cancel (s : Store) (id : TaskId) (now : Instant) : Answer Task × Store :=
  match s with
  | memory m => lift memory (m.cancel id now)
  | table t => lift table (t.cancel id now)

/-- Takes the held tasks that were last changed before the cutoff from their workers. -/
def reclaimStale (s : Store) (cutoff : Instant) (now : Instant) :
    Answer (List (TaskId × Reclaimed)) × Store :=
  match s with
  | memory m => lift memory (m.reclaimStale cutoff now)
  | table t => lift table (t.reclaimStale cutoff now)

/-- Fails the tasks that have waited for a decision since before the cutoff. -/
def expireDecisions (s : Store) (cutoff : Instant) (now : Instant) :
    Answer (List TaskId) × Store :=
  match s with
  | memory m => lift memory (m.expireDecisions cutoff now)
  | table t => lift table (t.expireDecisions cutoff now)

/-- Writes the marker, over the one there is. -/
def writeMarker (s : Store) (marker : PipelineMarker) : Answer Unit × Store :=
  match s with
  | memory m => lift memory (m.writeMarker marker)
  | table t => lift table (t.writeMarker marker)

/-- The marker, if there is one. -/
def readMarker (s : Store) : Answer (Option PipelineMarker) :=
  match s with
  | memory m => m.readMarker
  | table t => t.readMarker

/-- Notes a sign of life in the marker, if there is one. -/
def heartbeatMarker (s : Store) (beat : Instant) : Answer Unit × Store :=
  match s with
  | memory m => lift memory (m.heartbeatMarker beat)
  | table t => lift table (t.heartbeatMarker beat)

/-- Writes the fatal issue, over the one there is. -/
def recordFatal (s : Store) (issue : FatalIssue) : Answer Unit × Store :=
  match s with
  | memory m => lift memory (m.recordFatal issue)
  | table t => lift table (t.recordFatal issue)

/-- The fatal issue, if there is one. -/
def fatalIssue (s : Store) : Answer (Option FatalIssue) :=
  match s with
  | memory m => m.fatalIssue
  | table t => t.fatalIssue

end Store

end TaskPipeline
