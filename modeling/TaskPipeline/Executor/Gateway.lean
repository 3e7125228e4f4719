import TaskPipeline.Executor.Basic
import TaskPipeline.Json.Basic

/-!
The gateway to the executors: every attempt goes through it, ends by its limit at the latest, and
leaves a record for the audit. An attempt that ends at the very instant of its limit ends in time.
Clock readings are milliseconds of a steady clock.
-/

namespace TaskPipeline

/-- What the audit keeps of an attempt: the record that `ExecutorGateway::run` logs. -/
structure AuditRecord where
  executor : String
  task : TaskId
  taskType : TaskType
  attempt : UInt32
  ok : Bool
  verdict : String
  durationMs : UInt64
  deriving DecidableEq, Repr

namespace AuditRecord

def of (executor : String) (task : Task) (o : Outcome) : AuditRecord where
  executor := executor
  task := task.id
  taskType := task.taskType
  attempt := task.attemptCount
  ok := o.success
  verdict := if o.timedOut then "timeout" else if o.success then "ok" else "error"
  durationMs := o.durationMs

open Json

def toJson (r : AuditRecord) : Json :=
  .obj [
    ("event", .str "executor_audit"),
    ("executor", .str r.executor),
    ("task_id", .str r.task),
    ("task_type", .str r.taskType.name),
    ("attempt", ofUInt32 r.attempt),
    ("ok", .bool r.ok),
    ("outcome", .str r.verdict),
    ("duration_ms", ofNat r.durationMs.toNat)]

end AuditRecord

/-- An attempt under way. -/
structure Attempt where
  task : Task
  /-- The number of the launch. -/
  launch : Nat
  startedAt : Nat
  /-- When the launch ends; none if it never does. -/
  endsAt : Option Nat
  limit : Span

namespace Attempt

def deadline (a : Attempt) : Nat := a.startedAt + a.limit

/-- When the attempt is over, in time or not. -/
def overAt (a : Attempt) : Nat := (a.endsAt.map fun t => min t a.deadline).getD a.deadline

/-- The instant at which the launch ends, if that is in time. -/
def endsInTime (a : Attempt) : Option Nat := a.endsAt.filter (· ≤ a.deadline)

end Attempt

/-- `ExecutorGateway`, with the records it has logged. Its method `run` is `launch`, a wait until the
attempt is over, and `finish`. -/
structure Gateway where
  registry : Registry := {}
  defaultLimit : Span
  audit : List AuditRecord := []

namespace Gateway

/-- The time limit of a type of task: `timeout_for`. -/
def limitOf (g : Gateway) (type : TaskType) : Span :=
  (g.registry.limits.lookup type).getD g.defaultLimit

/-- Replaces the executor of a type. -/
def setExecutor (g : Gateway) (type : TaskType) (e : Executor) : Gateway :=
  { g with registry := g.registry.register type e }

/-- Launches a task; without an executor the attempt has failed already. The beginning of
`ExecutorGateway::run`. -/
def launch (g : Gateway) (task : Task) (clock : Nat) : Except Outcome Attempt × Gateway :=
  match g.registry.executor? task.taskType with
  | none =>
    (.error (.failed ("no executor registered for task type " ++ task.taskType.name) 0), g)
  | some e =>
    let attempt : Attempt := {
      task := task
      launch := e.launched
      startedAt := clock
      endsAt := (e.duration e.launched task).map (clock + ·)
      limit := g.limitOf task.taskType }
    (.ok attempt, g.setExecutor task.taskType { e with launched := e.launched + 1 })

/-- The outcome of an attempt that is over: the rest of `ExecutorGateway::run`. -/
def finish (g : Gateway) (a : Attempt) : Outcome × Gateway :=
  match g.registry.executor? a.task.taskType with
  | none => (.cutOff a.limit, g)
  | some e =>
    let (outcome, g) := match a.endsInTime with
      | some t =>
        ((e.ending a.launch e.ended a.task).outcome (t - a.startedAt),
          g.setExecutor a.task.taskType { e with ended := e.ended + 1 })
      | none => (.cutOff a.limit, g)
    (outcome, { g with audit := g.audit ++ [.of e.name a.task outcome] })

end Gateway

end TaskPipeline
