import TaskPipeline.Store.Basic

/-!
A store in memory: the tasks in the order of their creation. Each operation is one step: it gives
an answer and the store afterwards, and a refusal leaves the store as it was.

| here | there |
| --- | --- |
| `MemoryStore` | `Inner` of `MemoryTaskStore`: the map of tasks and the ids in `order` are one list |
| `find?`, `put` | `Inner::task_mut`, and the assignment to what it finds |
| `update`, `transition` | `MemoryTaskStore::mutate`, which changes a copy and keeps it in the end |
| `sweep` | the loop over all tasks in `reclaim_stale` and in `expire_decisions` |

All else bears the name of its method of `TaskStore`. The lock is held over a whole method, so that
one method is one step.
-/

namespace TaskPipeline

/-- The tasks with the two records beside them: `Inner`. -/
structure MemoryStore where
  /-- In the order of creation. -/
  tasks : List Task := []
  marker : Option PipelineMarker := none
  fatal : Option FatalIssue := none
  deriving Repr

namespace MemoryStore

def find? (s : MemoryStore) (id : TaskId) : Option Task := s.tasks.find? fun t => t.id == id

/-- Puts a task in the place of the one with its id. -/
def put (s : MemoryStore) (task : Task) : MemoryStore :=
  { s with tasks := s.tasks.map fun t => if t.id = task.id then task else t }

/-- Changes one task, unless the change is refused or panics: `MemoryTaskStore::mutate`. -/
def update {α : Type} (s : MemoryStore) (id : TaskId)
    (change : Task → Except Fault (α × Task)) : Answer (α × Task) × MemoryStore :=
  match s.find? id with
  | none => (.error (.notFound id), s)
  | some task =>
    match change task with
    | .error e => (.error (.inCaller e), s)
    | .ok (a, changed) => (.ok (a, changed), s.put changed)

/-- Changes one task by a transition. -/
def transition (s : MemoryStore) (id : TaskId) (change : Task → Except Fault Task) :
    Answer Task × MemoryStore :=
  let (answer, s) := s.update id fun t => (change t).map fun t => ((), t)
  (answer.map (·.2), s)

def create (s : MemoryStore) (id : TaskId) (new : NewTask) (maxAttempts : UInt32) (now : Instant) :
    Answer Task × MemoryStore :=
  let task := Task.create id new maxAttempts now
  (.ok task, { s with tasks := s.tasks ++ [task] })

def get (s : MemoryStore) (id : TaskId) : Answer Task :=
  match s.find? id with
  | some t => .ok t
  | none => .error (.notFound id)

/-- A page of the tasks, the newest first, as `TaskFilter::matches` and `page_size` say. -/
def list (s : MemoryStore) (f : TaskFilter) : Answer (List Task) :=
  .ok (((s.tasks.reverse.filter f.selects).drop f.offset.toNat).take f.pageSize)

def snapshot (s : MemoryStore) : Answer (List Task) := .ok s.tasks

/-- The tasks that may be claimed, the oldest first. No types mean all types. -/
def claimable (s : MemoryStore) (types : List TaskType) (limit : UInt64) (now : Instant) :
    Answer (List Task) :=
  let candidates := s.tasks.filter fun t =>
    t.isClaimable now && (types.isEmpty || types.contains t.taskType)
  .ok ((candidates.mergeSort fun a b => a.createdAt ≤ b.createdAt).take limit.toNat)

def claim (s : MemoryStore) (id : TaskId) (worker : WorkerId) (now : Instant) :
    Answer ClaimResult × MemoryStore :=
  match s.find? id with
  | none => (.error (.notFound id), s)
  | some task =>
    match task.claim worker now with
    | .ok claimed => (.ok (.claimed claimed), s.put claimed)
    | .error _ => (.ok .alreadyClaimed, s)

def start (s : MemoryStore) (id : TaskId) (worker : WorkerId) (now : Instant) :
    Answer Task × MemoryStore :=
  s.transition id (·.start worker now)

def touch (s : MemoryStore) (id : TaskId) (worker : WorkerId) (now : Instant) :
    Answer Unit × MemoryStore :=
  let (answer, s) := s.transition id (·.touch worker now)
  (answer.map fun _ => (), s)

def recordOutcome (s : MemoryStore) (id : TaskId) (attempt : UInt32) (decision : Decision)
    (now : Instant) : Answer (Applied × Task) × MemoryStore :=
  s.update id (·.settle attempt decision now)

def resolve (s : MemoryStore) (id : TaskId) (resolution : Resolution) (output : Option String)
    (now : Instant) : Answer Task × MemoryStore :=
  s.transition id (·.resolve resolution output now)

def reopen (s : MemoryStore) (id : TaskId) (now : Instant) : Answer Task × MemoryStore :=
  s.transition id (·.reopen now)

def cancel (s : MemoryStore) (id : TaskId) (now : Instant) : Answer Task × MemoryStore :=
  s.transition id (·.cancel now)

/-- A held task without a sign of life since the cutoff: what `reclaim_stale` looks for. -/
def isStale (cutoff : Instant) (t : Task) : Bool := t.status.isHeld && t.updatedAt < cutoff

/-- A task that has waited for a decision since before the cutoff: what `expire_decisions` looks
for. -/
def isOverdue (cutoff : Instant) (t : Task) : Bool :=
  t.status = .needsDecision && t.updatedAt < cutoff

/-- Changes the selected tasks where they stand and reports on each. -/
def sweep {α : Type} (select : Task → Bool) (change : Task → Except Fault (α × Task)) :
    List Task → List (TaskId × α) × List Task
  | [] => ([], [])
  | t :: ts =>
    let (reports, ts) := sweep select change ts
    if select t then
      match change t with
      | .ok (a, changed) => ((t.id, a) :: reports, changed :: ts)
      | .error _ => (reports, t :: ts)
    else (reports, t :: ts)

/-- Takes the stale tasks from their workers. -/
def reclaimStale (s : MemoryStore) (cutoff now : Instant) :
    Answer (List (TaskId × Reclaimed)) × MemoryStore :=
  let (reports, tasks) := sweep (isStale cutoff) (·.reclaim now) s.tasks
  (.ok reports, { s with tasks := tasks })

/-- Fails the tasks whose decision is overdue. -/
def expireDecisions (s : MemoryStore) (cutoff now : Instant) :
    Answer (List TaskId) × MemoryStore :=
  let (reports, tasks) :=
    sweep (isOverdue cutoff) (fun t => (t.expire now).map fun t => ((), t)) s.tasks
  (.ok (reports.map (·.1)), { s with tasks := tasks })

def writeMarker (s : MemoryStore) (marker : PipelineMarker) : Answer Unit × MemoryStore :=
  (.ok (), { s with marker := some marker })

def readMarker (s : MemoryStore) : Answer (Option PipelineMarker) := .ok s.marker

/-- Notes a sign of life in the marker, if there is one. -/
def heartbeatMarker (s : MemoryStore) (beat : Instant) : Answer Unit × MemoryStore :=
  (.ok (), { s with marker := s.marker.map fun m => { m with heartbeatAt := beat } })

def recordFatal (s : MemoryStore) (issue : FatalIssue) : Answer Unit × MemoryStore :=
  (.ok (), { s with fatal := some issue })

def fatalIssue (s : MemoryStore) : Answer (Option FatalIssue) := .ok s.fatal

end MemoryStore

end TaskPipeline
