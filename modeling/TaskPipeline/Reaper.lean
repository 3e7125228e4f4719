import TaskPipeline.Notice
import TaskPipeline.Settings.Section
import TaskPipeline.Span
import TaskPipeline.Store

/-!
The reaper: at intervals it takes tasks from workers that have fallen silent, fails tasks whose
decision is overdue, tells about the tasks it has failed, and gives a sign of life in the marker.
Each step of a sweep asks the store once.
-/

namespace TaskPipeline

/-- What a `Reaper` goes by. -/
structure ReaperPolicy where
  interval : Span
  staleAfter : Span
  /-- How long a task may wait for a decision, if there is a limit. -/
  decisionTtl : Option Span
  deriving Repr

/-- `Reaper::new`. -/
def ReaperPolicy.ofSettings (s : ReaperSettings) : ReaperPolicy where
  interval := .ofSeconds (max s.intervalSecs 1)
  staleAfter := .ofSeconds s.staleAfterSecs
  decisionTtl := if 0 < s.decisionTtlSecs then some (.ofSeconds s.decisionTtlSecs) else none

/-- What a sweep did: `SweepReport`. -/
structure SweepReport where
  requeued : List TaskId := []
  abandoned : List TaskId := []
  expired : List TaskId := []
  deriving DecidableEq, Repr

namespace SweepReport

def isEmpty (r : SweepReport) : Bool :=
  r.requeued.isEmpty && r.abandoned.isEmpty && r.expired.isEmpty

/-- The report on reclaimed tasks. -/
def ofReclaimed (reclaimed : List (TaskId × Reclaimed)) : SweepReport where
  requeued := (reclaimed.filter (·.2 = .requeued)).map (·.1)
  abandoned := (reclaimed.filter (·.2 = .abandoned)).map (·.1)

/-- The tasks that the sweep has failed. -/
def failed (r : SweepReport) : List TaskId := r.abandoned ++ r.expired

open Json in
def toJson (r : SweepReport) : Json :=
  let ids (xs : List TaskId) : Json := .arr (xs.map .str)
  .obj [
    ("empty", .bool r.isEmpty),
    ("requeued", ids r.requeued),
    ("abandoned", ids r.abandoned),
    ("expired", ids r.expired)]

end SweepReport

/-- Where a sweep stands. Its cutoffs go by the instant at which it began. -/
inductive Sweep where
  | reclaiming
  | expiring (began : Instant) (report : SweepReport)
  | telling (left : List TaskId) (report : SweepReport)
  | beating (report : SweepReport)
  | ended (result : Answer SweepReport)

namespace Sweep

/-- The next step of a sweep, from one await of `Reaper::sweep` to the next: the store and the
notices sent afterwards. -/
def step (p : ReaperPolicy) (now : Instant) (sweep : Sweep) (s : Store) (notices : List Notice) :
    Sweep × Store × List Notice :=
  match sweep with
  | reclaiming =>
    match s.reclaimStale (now - p.staleAfter.toInt64) now with
    | (.error e, s) => (ended (.error e), s, notices)
    | (.ok reclaimed, s) => (expiring now (.ofReclaimed reclaimed), s, notices)
  | expiring began report =>
    match p.decisionTtl with
    | none => (telling report.failed report, s, notices)
    | some ttl =>
      match s.expireDecisions (began - ttl.toInt64) now with
      | (.error e, s) => (ended (.error e), s, notices)
      | (.ok expired, s) =>
        let report := { report with expired := expired }
        (telling report.failed report, s, notices)
  | telling [] report => (beating report, s, notices)
  | telling (id :: left) report =>
    let told := match s.get id with
      | .ok task => (Notice.ofTask? task).toList
      | .error _ => []
    (telling left report, s, notices ++ told)
  | beating report =>
    match s.heartbeatMarker now with
    | (.error e, s) => (ended (.error e), s, notices)
    | (.ok (), s) => (ended (.ok report), s, notices)
  | ended result => (ended result, s, notices)

/-- Steps through a sweep, at most so many. -/
def run (p : ReaperPolicy) (now : Instant) : Nat → Sweep → Store → List Notice →
    Sweep × Store × List Notice
  | 0, sweep, s, notices => (sweep, s, notices)
  | fuel + 1, sweep, s, notices =>
    match sweep with
    | ended result => (ended result, s, notices)
    | _ =>
      let (sweep, s, notices) := step p now sweep s notices
      run p now fuel sweep s notices

end Sweep

/-- The number of stored tasks, readable or not. -/
def Store.size : Store → Nat
  | .memory m => m.tasks.length
  | .table t => t.rows.length

/-- A whole sweep at one instant, which nobody else interferes with: `Reaper::sweep`. -/
def ReaperPolicy.sweep (p : ReaperPolicy) (now : Instant) (s : Store) :
    Answer SweepReport × Store × List Notice :=
  match Sweep.run p now (2 * s.size + 5) .reclaiming s [] with
  | (.ended result, s, notices) => (result, s, notices)
  | (_, s, notices) => (.ok {}, s, notices)

/-- A reaper at work, and when its next sweep is due. -/
structure Reaper where
  policy : ReaperPolicy
  nextSweep : Nat
  deriving Repr

end TaskPipeline
