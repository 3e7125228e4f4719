import TaskPipeline.Http.Form
import TaskPipeline.Http.MediaType
import TaskPipeline.Http.Target
import TaskPipeline.Monitor
import TaskPipeline.Retry

/-!
The HTTP interface to a store: tasks are created, listed, read, decided, cancelled and reopened,
and reports are given. A request is answered in one step, with the store afterwards; every check of
the request itself comes before the store is asked to change.
-/

namespace TaskPipeline.Http

open Json

structure Request where
  method : String
  target : Target
  contentType : Option String
  body : String
  deriving Repr

inductive Body where
  | json (j : Json)
  | text (s : String)
  deriving Repr

structure Response where
  status : Nat
  body : Body
  deriving Repr

/-- What a request comes to: a response, unless its handler panics, and the store afterwards. -/
abbrev Handled := Option Response × Store

/-- The response to a request that wants the head alone. -/
def Response.headOnly (r : Response) : Response := { r with body := .text "" }

/-- Why a request is not fulfilled: `ApiError`, and the rejections that become one. -/
inductive ApiError where
  | notFound (id : TaskId)
  | conflict (cause : TransitionError)
  | notJson
  | badBody
  | badQuery
  | emptyDirection
  | noAttempts
  | noStatus
  | unknown (name : UnknownName)
  | store (cause : StoreError)
  deriving DecidableEq, Repr

namespace ApiError

/-- `ApiError::from` of a `StoreError`. -/
def ofStore : StoreError → ApiError
  | .notFound id => notFound id
  | .transition cause => conflict cause
  | other => store other

def status : ApiError → Nat
  | notFound _ => 404
  | conflict _ => 409
  | store _ => 500
  | _ => 422

def message : ApiError → String
  | notFound id => "task not found: " ++ id
  | conflict cause => cause.message
  | notJson => "Expected request with `Content-Type: application/json`"
  | badBody => "<invalid JSON body>"
  | badQuery => "<invalid query string>"
  | emptyDirection => "direction must not be empty"
  | noAttempts => "max_attempts must be at least 1"
  | noStatus => "status is required"
  | unknown name => name.message
  | store cause => "store error: " ++ cause.message

def response (e : ApiError) : Response :=
  ⟨e.status, .json (.obj [("error", .str e.message)])⟩

end ApiError

/-- What the interface goes by besides the store: the rest of `AppState`. -/
structure Api where
  policy : RetryPolicy
  monitor : Monitor
  version : String
  workers : Nat
  liveWorkers : Nat

/-! ## Routes -/

/-- What can be addressed. -/
inductive Route where
  | tasks
  | task (id : List Char)
  | cancel (id : List Char)
  | reopen (id : List Char)
  | issues
  | effectiveness
  | health
  deriving DecidableEq, Repr

namespace Route

def ofPath? (path : String) : Option Route :=
  match (splitAt '/' path.toList).map String.ofList with
  | ["", "tasks"] => some tasks
  | ["", "tasks", id] => if id.isEmpty then none else some (task id.toList)
  | ["", "tasks", id, "cancel"] => if id.isEmpty then none else some (cancel id.toList)
  | ["", "tasks", id, "reopen"] => if id.isEmpty then none else some (reopen id.toList)
  | ["", "monitor", "issues"] => some issues
  | ["", "effectiveness"] => some effectiveness
  | ["", "health"] => some health
  | _ => none

end Route

/-! ## Reading requests -/

/-- The record that the body of a request holds. What follows the first value does not matter. -/
def readBody {α : Type} (r : Request) (read : Json → Option α) : Except ApiError α :=
  if !r.contentType.any announcesJson then .error .notJson
  else
    match (Json.parseFront? r.body).bind fun front => read front.1 with
    | some a => .ok a
    | none => .error .badBody

/-- A request for a task that passes the checks of `create_task`. -/
def readNewTask (r : Request) : Except ApiError NewTask := do
  let new ← readBody r NewTask.ofJson?
  if Text.isBlankText new.direction then .error .emptyDirection
  else if new.maxAttempts = some 0 then .error .noAttempts
  else .ok new

/-- An outside decision: the status asked for, and an output. -/
def decisionOfJson? (j : Json) : Option (Option TaskStatus × Option String) := do
  let s ← j.slots ["status", "output"]
  return (← s.optional "status" (asOption TaskStatus.ofJson?),
    ← s.optional "output" (asOption asString))

/-- What `patch_task` reads before it asks the store. -/
def readDecision (r : Request) : Except ApiError (Resolution × Option String) := do
  let (status, output) ← readBody r decisionOfJson?
  match status with
  | none => .error .noStatus
  | some s =>
    match Resolution.ofStatus s with
    | .error e => .error (.conflict e)
    | .ok resolution => .ok (resolution, output)

/-- The name under a key, if there is one. -/
def readName {α : Type} (find : String → Option α) (cause : String → UnknownName) :
    Option String → Except ApiError (Option α)
  | none => .ok none
  | some s =>
    match find s with
    | some a => .ok (some a)
    | none => .error (.unknown (cause s))

/-- The raw values of a query for tasks: status, type, limit and offset. -/
def filterValues? (query : String) :
    Option (Option String × Option String × Option Nat × Option Nat) := do
  let pairs := queryPairs query.toList
  return (← single pairs "status", ← single pairs "task_type",
    ← singleNatural pairs "limit" UInt64.size, ← singleNatural pairs "offset" UInt64.size)

/-- What `list_tasks` reads from a `ListQuery`. -/
def readFilter (query : String) : Except ApiError TaskFilter := do
  match filterValues? query with
  | none => .error .badQuery
  | some (status, type, limit, offset) =>
    return {
      status := ← readName TaskStatus.ofName? .status status
      taskType := ← readName TaskType.ofName? .taskType type
      limit := limit.map (UInt64.ofNat ·)
      offset := UInt64.ofNat (offset.getD 0) }

/-- The hours of a report where the query asks for none. -/
def defaultWindow : UInt32 := 24

def readWindow (query : String) : Except ApiError UInt32 :=
  match singleNatural (queryPairs query.toList) "window_hours" UInt32.size with
  | none => .error .badQuery
  | some hours => .ok (max ((hours.map (UInt32.ofNat ·)).getD defaultWindow) 1)

/-! ## Writing answers -/

def effectivenessJson (e : Effectiveness) : Json :=
  .obj [
    ("window_hours", ofUInt32 e.windowHours),
    ("throughput", ofNat e.throughput),
    ("completed", ofNat e.completed),
    ("failed", ofNat e.failed),
    ("success_rate", ofOption (fun bits => .num (.double bits)) e.successRate),
    ("by_status", .obj (e.byStatus.map fun p => (p.1.name, ofNat p.2))),
    ("by_category", .obj (e.byCategory.map fun p => (p.1.name, ofNat p.2)))]

def issueJson (i : Issue) : Json :=
  .obj <| [
    ("kind", .str i.kind.name),
    ("severity", ofNat i.severity),
    ("count", ofNat i.count),
    ("summary", .str i.summary)] ++
    if i.tasks.isEmpty then [] else [("task_ids", .arr (i.tasks.map .str))]

/-- The health of the pipeline: enough workers, too few, or none where there should be some. This is
`health`. -/
def Api.health (a : Api) : Response :=
  let (code, status) :=
    if a.workers > 0 ∧ a.liveWorkers = 0 then (503, "no_workers")
    else if a.liveWorkers < a.workers then (200, "degraded")
    else (200, "ok")
  ⟨code, .json (.obj [
    ("status", .str status),
    ("version", .str a.version),
    ("workers", ofNat a.workers),
    ("live_workers", ofNat a.liveWorkers)])⟩

/-- An answer with a status of success, or an error. -/
def answer {α : Type} (status : Nat) (write : α → Json) : Except ApiError α → Response
  | .ok a => ⟨status, .json (write a)⟩
  | .error e => e.response

def ofAnswer {α : Type} : Answer α → Except ApiError α
  | .ok a => .ok a
  | .error e => .error (.ofStore e)

/-- A page of tasks with the limit and the offset that were used. -/
def pageJson (f : TaskFilter) (tasks : List Task) : Json :=
  .obj [
    ("tasks", .arr (tasks.map Task.toJson)),
    ("limit", ofNat f.pageSize),
    ("offset", ofNat f.offset.toNat)]

/-! ## Handling -/

def noBody (status : Nat) : Response := ⟨status, .text ""⟩

/-- A part of the path that is no text. -/
def badPath : Response := ⟨400, .text "Invalid URL: Invalid UTF-8 in `id`"⟩

/-- A response that leaves the store as it is. -/
def leave (r : Response) (s : Store) : Handled := (some r, s)

/-- Answers from the store as it is. -/
def view {α : Type} (s : Store) (status : Nat) (write : α → Json) (result : Except ApiError α) :
    Handled :=
  leave (answer status write result) s

/-- Answers with a task that the store has changed. A panic of the store is one of the handler. -/
def changed (step : Answer Task × Store) (status : Nat) : Handled :=
  (match step.1 with
    | .error .panicked => none
    | result => some (answer status Task.toJson (ofAnswer result)), step.2)

namespace Api

/-- Creates a task under a fresh id: `create_task`. -/
def createTask (a : Api) (s : Store) (r : Request) (fresh : TaskId) (now : Instant) : Handled :=
  match readNewTask r with
  | .error e => leave e.response s
  | .ok new =>
    changed (s.create fresh new (a.policy.maxAttemptsFor new.taskType new.maxAttempts) now) 201

/-- Applies an outside decision: `patch_task`. -/
def decideTask (s : Store) (r : Request) (id : TaskId) (now : Instant) : Handled :=
  match readDecision r with
  | .error e => leave e.response s
  | .ok (resolution, output) => changed (s.resolve id resolution output now) 200

/-- A request about one task, whose id has to be a text. -/
def withId (s : Store) (id : List Char) (handle : TaskId → Handled) : Handled :=
  match pathText? id with
  | some id => handle id
  | none => leave badPath s

/-- The handlers of `GET`, where a route has one: `list_tasks`, `get_task`, `open_issues`,
`effectiveness` and `health`. -/
def get (a : Api) (s : Store) (r : Request) (now : Instant) : Route → Option Handled
  | .tasks => some <|
    match readFilter r.target.query with
    | .error e => leave e.response s
    | .ok f => view s 200 (pageJson f) (ofAnswer (s.list f))
  | .task id => some <| withId s id fun id => view s 200 Task.toJson (ofAnswer (s.get id))
  | .issues => some <|
    view s 200 (fun is => .arr (is.map issueJson)) (ofAnswer (a.monitor.issues s now))
  | .effectiveness => some <|
    view s 200 effectivenessJson <| do
      let hours ← readWindow r.target.query
      ofAnswer (Monitor.effectiveness s hours now)
  | .health => some (leave a.health s)
  | .cancel _ | .reopen _ => none

/-- The handlers of `POST`: `create_task`, `cancel_task` and `reopen_task`. -/
def post (a : Api) (s : Store) (r : Request) (fresh : TaskId) (now : Instant) :
    Route → Option Handled
  | .tasks => some (a.createTask s r fresh now)
  | .cancel id => some <| withId s id fun id => changed (s.cancel id now) 200
  | .reopen id => some <| withId s id fun id => changed (s.reopen id now) 200
  | _ => none

/-- The handlers of `PATCH`: `patch_task`. -/
def patch (s : Store) (r : Request) (now : Instant) : Route → Option Handled
  | .task id => some <| withId s id fun id => decideTask s r id now
  | _ => none

/-- Answers a request as the `router` does. A new task gets the fresh id. -/
def handle (a : Api) (s : Store) (r : Request) (fresh : TaskId) (now : Instant) : Handled :=
  match Route.ofPath? r.target.path with
  | none => leave (noBody 404) s
  | some route =>
    let handled : Option Handled := match r.method with
      | "GET" => a.get s r now route
      | "HEAD" => (a.get s r now route).map fun (response, s) => (response.map (·.headOnly), s)
      | "POST" => a.post s r fresh now route
      | "PATCH" => patch s r now route
      | _ => none
    handled.getD (leave (noBody 405) s)

end Api

end TaskPipeline.Http
