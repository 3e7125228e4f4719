import TaskPipeline.Json.Basic
import TaskPipeline.Settings.Section
import TaskPipeline.Span

/-!
How a dispatcher works: how many workers it has, which types of task they take, and at which pace.
-/

namespace TaskPipeline

/-- The types of task that a list of names asks for: `capability_filter`. Names that are no type are
left out, and no types mean all types. -/
def DispatchSettings.capabilities (s : DispatchSettings) : List TaskType :=
  s.taskTypes.filterMap TaskType.ofName?

/-- `DispatcherConfig`. -/
structure DispatchPolicy where
  workers : Nat
  /-- The types of task to take; none means all. -/
  taskTypes : List TaskType
  pollInterval : Span
  /-- How many candidates a poll looks at. -/
  claimBatch : UInt64
  heartbeatInterval : Span
  deriving Repr

/-- `DispatcherConfig::from`. -/
def DispatchPolicy.ofSettings (s : DispatchSettings) : DispatchPolicy where
  workers := (max s.workers 1).toNat
  taskTypes := s.capabilities
  pollInterval := .ofMillis (max s.pollIntervalMs 10)
  claimBatch := max s.claimBatch 1
  heartbeatInterval := .ofSeconds (max s.heartbeatSecs 1)

open Json in
def DispatchPolicy.toJson (p : DispatchPolicy) : Json :=
  .obj [
    ("workers", ofNat p.workers),
    ("task_types", .arr (p.taskTypes.map fun t => .str t.name)),
    ("poll_interval_ms", ofUInt64 p.pollInterval.toUInt64),
    ("claim_batch", ofUInt64 p.claimBatch),
    ("heartbeat_interval_ms", ofUInt64 p.heartbeatInterval.toUInt64)]

end TaskPipeline
