import TaskPipeline.Store.Row

/-!
A store in a table: rows of cells in the order of their insertion, and texts under keys beside
them. Selections compare cells, so they also answer about rows that cannot be read as tasks; a
query fails with the first such row that it returns.

| here | there |
| --- | --- |
| `TableStore` | the tables `tasks` and `pipeline_meta` of `SqliteTaskStore` |
| `readAll` | `query_tasks`, behind the selection of the statement |
| `oldestFirst`, `newestFirst`, `slice` | `ORDER BY created_at, rowid` in either direction; `LIMIT` and `OFFSET` |
| `load`, `insert`, `save` | `load_task`, `insert_task`, `save_task` |
| `update`, `transition` | `SqliteTaskStore::mutate`: one transaction, given up on an error |
| `sweep`, `sweepTasks` | `sweep`: the statement, and the loop over what it returns |
| `putRecord`, `readRecord` | `put_meta`, `get_meta` |

All else bears the name of its method of `TaskStore`. A method is one closure under the lock of the
connection (`blocking`), so that one method is one step.
-/

namespace TaskPipeline

/-- The tables of `SqliteTaskStore`. -/
structure TableStore where
  /-- In the order of insertion. -/
  rows : List Row := []
  /-- The texts beside the tasks, by key. -/
  records : List (String × String) := []
  deriving Repr

namespace TableStore

/-- `MARKER_KEY`. -/
def markerKey : String := "pipeline_marker"

/-- `FATAL_KEY`. -/
def fatalKey : String := "fatal_issue"

/-! ## Queries -/

/-- Rows as tasks, up to the first that is none: `query_tasks`. -/
def readAll (rows : List Row) : Answer (List Task) :=
  match rows.mapM Row.toTask with
  | .ok tasks => .ok tasks
  | .error e => .error (.row e)

/-- The rows by creation time, the earliest first, equal ones in the order of insertion. -/
def oldestFirst (rows : List Row) : List Row :=
  rows.mergeSort fun a b => a.createdAt.sortsUpTo b.createdAt

def newestFirst (rows : List Row) : List Row := (oldestFirst rows).reverse

/-- A part of a result. A negative limit is no limit and a negative offset is none. -/
def slice {α : Type} (limit offset : Int64) (xs : List α) : List α :=
  let rest := xs.drop offset.toInt.toNat
  if limit < 0 then rest else rest.take limit.toInt.toNat

/-- The row with an id. -/
def row? (s : TableStore) (id : TaskId) : Option Row := s.rows.find? fun r => r.id.same (.text id)

/-- The task with an id: `load_task`. -/
def load (s : TableStore) (id : TaskId) : Answer Task :=
  match s.row? id with
  | none => .error (.notFound id)
  | some r =>
    match r.toTask with
    | .ok t => .ok t
    | .error e => .error (.row e)

/-- Changes the row with an id. -/
def modify (s : TableStore) (id : TaskId) (f : Row → Row) : TableStore :=
  { s with rows := s.rows.map fun r => if r.id.same (.text id) then f r else r }

/-- Stores a task whose id is not taken: `insert_task`. -/
def insert (s : TableStore) (t : Task) : TableStore := { s with rows := s.rows ++ [Row.ofTask t] }

/-- Writes back a task: `save_task`. -/
def save (s : TableStore) (t : Task) : TableStore := s.modify t.id (·.save t)

/-- Changes one task, unless it cannot be read or the change is refused or panics:
`SqliteTaskStore::mutate`, whose transaction is then given up. -/
def update {α : Type} (s : TableStore) (id : TaskId)
    (change : Task → Except Fault (α × Task)) : Answer (α × Task) × TableStore :=
  match s.load id with
  | .error e => (.error e, s)
  | .ok task =>
    match change task with
    | .error e => (.error (.inTask e), s)
    | .ok (a, changed) => (.ok (a, changed), s.save changed)

/-- Changes one task by a transition. -/
def transition (s : TableStore) (id : TaskId) (change : Task → Except Fault Task) :
    Answer Task × TableStore :=
  let (answer, s) := s.update id fun t => (change t).map fun t => ((), t)
  (answer.map (·.2), s)

/-! ## Operations on tasks -/

def create (s : TableStore) (id : TaskId) (new : NewTask) (maxAttempts : UInt32) (now : Instant) :
    Answer Task × TableStore :=
  let task := Task.create id new maxAttempts now
  (.ok task, s.insert task)

def get (s : TableStore) (id : TaskId) : Answer Task := s.load id

/-- A page of the tasks, the newest first. -/
def list (s : TableStore) (f : TaskFilter) : Answer (List Task) :=
  let selected := s.rows.filter fun r =>
    f.status.all (fun x => r.status.same (.text x.name)) &&
      f.taskType.all (fun x => r.taskType.same (.text x.name))
  readAll (slice (Int64.ofNat f.pageSize) f.offset.toInt64 (newestFirst selected))

def snapshot (s : TableStore) : Answer (List Task) := readAll (oldestFirst s.rows)

/-- The row may be claimed now: the condition in the statements of `claimable` and `claim`. -/
def mayBeClaimed (now : Instant) (r : Row) : Bool :=
  r.status.same (.text TaskStatus.pending.name) && r.cancelled.same (.integer 0) &&
    (r.nextAttemptAt == .null || r.nextAttemptAt.upTo (.integer now))

/-- The tasks that may be claimed, the oldest first. No types mean all types. -/
def claimable (s : TableStore) (types : List TaskType) (limit : UInt64) (now : Instant) :
    Answer (List Task) :=
  let selected := s.rows.filter fun r =>
    mayBeClaimed now r &&
      (types.isEmpty || types.any fun x => r.taskType.same (.text x.name))
  readAll (slice limit.toInt64 0 (oldestFirst selected))

/-- What a claim writes into a row. -/
def claimRow (worker : WorkerId) (now : Instant) (r : Row) : Row :=
  if mayBeClaimed now r then
    { r with
      status := .text TaskStatus.claimed.name, claimedBy := .text worker,
      updatedAt := .integer now }
  else r

/-- `SqliteTaskStore::claim`. The claim is written before the task is read and outside of any
transaction, so it stands even if the task cannot be read. -/
def claim (s : TableStore) (id : TaskId) (worker : WorkerId) (now : Instant) :
    Answer ClaimResult × TableStore :=
  let won := (s.row? id).any (mayBeClaimed now)
  let s := s.modify id (claimRow worker now)
  ((s.load id).map fun t => if won then .claimed t else .alreadyClaimed, s)

def start (s : TableStore) (id : TaskId) (worker : WorkerId) (now : Instant) :
    Answer Task × TableStore :=
  s.transition id (·.start worker now)

def touch (s : TableStore) (id : TaskId) (worker : WorkerId) (now : Instant) :
    Answer Unit × TableStore :=
  let (answer, s) := s.transition id (·.touch worker now)
  (answer.map fun _ => (), s)

def recordOutcome (s : TableStore) (id : TaskId) (attempt : UInt32) (decision : Decision)
    (now : Instant) : Answer (Applied × Task) × TableStore :=
  s.update id (·.settle attempt decision now)

def resolve (s : TableStore) (id : TaskId) (resolution : Resolution) (output : Option String)
    (now : Instant) : Answer Task × TableStore :=
  s.transition id (·.resolve resolution output now)

def reopen (s : TableStore) (id : TaskId) (now : Instant) : Answer Task × TableStore :=
  s.transition id (·.reopen now)

def cancel (s : TableStore) (id : TaskId) (now : Instant) : Answer Task × TableStore :=
  s.transition id (·.cancel now)

/-- Changes one task after the other and reports on each; a refusal gives up all of it. -/
def sweepTasks {α : Type} (change : Task → Except Fault (α × Task)) :
    List Task → TableStore → Answer (List (TaskId × α) × TableStore)
  | [], s => .ok ([], s)
  | t :: ts, s =>
    match change t with
    | .error e => .error (.inTask e)
    | .ok (a, changed) => do
      let (reports, s) ← sweepTasks change ts (s.save changed)
      return ((t.id, a) :: reports, s)

/-- Changes the tasks of some statuses that were last changed before the cutoff: `sweep`. -/
def sweep {α : Type} (s : TableStore) (statuses : List TaskStatus) (cutoff : Instant)
    (change : Task → Except Fault (α × Task)) :
    Answer (List (TaskId × α)) × TableStore :=
  let selected := s.rows.filter fun r =>
    statuses.any (fun x => r.status.same (.text x.name)) && r.updatedAt.before (.integer cutoff)
  match readAll (oldestFirst selected) with
  | .error e => (.error e, s)
  | .ok tasks =>
    match sweepTasks change tasks s with
    | .error e => (.error e, s)
    | .ok (reports, swept) => (.ok reports, swept)

/-- Takes the stale tasks from their workers. -/
def reclaimStale (s : TableStore) (cutoff now : Instant) :
    Answer (List (TaskId × Reclaimed)) × TableStore :=
  s.sweep [.claimed, .running] cutoff (·.reclaim now)

/-- Fails the tasks whose decision is overdue. -/
def expireDecisions (s : TableStore) (cutoff now : Instant) : Answer (List TaskId) × TableStore :=
  let (answer, s) :=
    s.sweep [.needsDecision] cutoff fun t => (t.expire now).map fun t => ((), t)
  (answer.map fun reports => reports.map (·.1), s)

/-! ## Records beside the tasks -/

/-- Writes a text under a key, over what is there: `put_meta`. -/
def putRecord (s : TableStore) (key text : String) : TableStore :=
  if s.records.any (·.1 == key) then
    { s with records := s.records.map fun r => if r.1 = key then (key, text) else r }
  else { s with records := s.records ++ [(key, text)] }

/-- Reads the text under a key, if there is one: `get_meta`. -/
def readRecord {α : Type} (s : TableStore) (key : String) (read : Json → Option α) :
    Answer (Option α) :=
  match s.records.lookup key with
  | none => .ok none
  | some text =>
    match (Json.parse? text).bind read with
    | some a => .ok (some a)
    | none => .error .record

def writeMarker (s : TableStore) (marker : PipelineMarker) : Answer Unit × TableStore :=
  (.ok (), s.putRecord markerKey marker.toJson.toText)

def readMarker (s : TableStore) : Answer (Option PipelineMarker) :=
  s.readRecord markerKey PipelineMarker.ofJson?

/-- Notes a sign of life in the marker, if there is one. -/
def heartbeatMarker (s : TableStore) (beat : Instant) : Answer Unit × TableStore :=
  match s.readMarker with
  | .error e => (.error e, s)
  | .ok none => (.ok (), s)
  | .ok (some marker) =>
    (.ok (), s.putRecord markerKey { marker with heartbeatAt := beat }.toJson.toText)

def recordFatal (s : TableStore) (issue : FatalIssue) : Answer Unit × TableStore :=
  (.ok (), s.putRecord fatalKey issue.toJson.toText)

def fatalIssue (s : TableStore) : Answer (Option FatalIssue) :=
  s.readRecord fatalKey FatalIssue.ofJson?

/-! ## Edits by hand -/

/-- What forbids to put a cell into a column of the row with an id. -/
def obstacle? (s : TableStore) (id : TaskId) (column : Column) (cell : Cell) :
    Option ColumnError :=
  let others := s.rows.filter fun r => !r.id.same (.text id)
  if cell = .null ∧ !column.isOptional then some (.needsValue column.name)
  else if column = .id ∧ others.any fun r => r.id.same (column.keep cell) then
    some (.taken column.name)
  else none

/-- Puts a value into a column of a row, unless that is forbidden; how many rows that changed. -/
def edit (s : TableStore) (id : TaskId) (column : Column) (cell : Cell) :
    Answer Nat × TableStore :=
  let hits := (s.rows.filter fun r => r.id.same (.text id)).length
  match s.obstacle? id column cell with
  | some e => if hits = 0 then (.ok 0, s) else (.error (.row e), s)
  | none => (.ok hits, s.modify id (·.set column cell))

/-- Removes a row; how many rows that removed. -/
def delete (s : TableStore) (id : TaskId) : Answer Nat × TableStore :=
  let (gone, left) := s.rows.partition fun r => r.id.same (.text id)
  (.ok gone.length, { s with rows := left })

/-- Changes the text under a key; how many texts that changed. -/
def editRecord (s : TableStore) (key text : String) : Answer Nat × TableStore :=
  if s.records.any (·.1 == key) then (.ok 1, s.putRecord key text) else (.ok 0, s)

end TableStore

end TaskPipeline
