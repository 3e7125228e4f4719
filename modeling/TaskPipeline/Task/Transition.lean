import TaskPipeline.Task.Basic
import TaskPipeline.Text.Quoted

/-!
The life of a task, as pure functions that either refuse or give the task afterwards. A sum that
leaves its range is a panic and no refusal: whoever made the call then gets no answer from it.

    pending -- claim --> claimed -- start --> running
    running -- complete, retry, fail, escalate --> completed, pending, failed, needsDecision
    needsDecision -- resolve --> pending, failed        needsDecision -- expire --> failed
    failed -- reopen --> pending                        claimed, running -- reclaim --> pending

A running task whose budget is spent is not requeued by a reclaim but failed.
-/

namespace TaskPipeline

/-- What someone wants to do with a task. -/
inductive TaskAction where
  | claim
  | start
  | heartbeat
  | resolve
  | reopen
  | cancel
  | reclaim
  | expire
  deriving DecidableEq, Repr

def TaskAction.name : TaskAction → String
  | claim => "claim"
  | start => "start"
  | heartbeat => "heartbeat"
  | resolve => "resolve"
  | reopen => "reopen"
  | cancel => "cancel"
  | reclaim => "reclaim"
  | expire => "expire"

/-- Why a task refuses: `TransitionError`. -/
inductive TransitionError where
  | illegal (action : TaskAction) (status : TaskStatus)
  | notHolder (worker : WorkerId) (holder : Option WorkerId)
  | invalidResolution (status : TaskStatus)
  deriving DecidableEq, Repr

def TransitionError.message : TransitionError → String
  | illegal action status =>
    "cannot " ++ action.name ++ " a task in status '" ++ status.name ++ "'"
  | notHolder worker holder =>
    let who := match holder with
      | some h => "Some(" ++ Text.quoted h ++ ")"
      | none => "None"
    "task is held by " ++ who ++ ", not by worker '" ++ worker ++ "'"
  | invalidResolution status =>
    "resolution must be 'pending' or 'failed', got '" ++ status.name ++ "'"

/-- Why an operation on a task gives no task. -/
inductive Fault where
  | refused (cause : TransitionError)
  /-- The operation panics: a count of attempts or an instant would leave its range. -/
  | overflow
  deriving DecidableEq, Repr

/-- What becomes of an attempt: `Decision`. -/
inductive Decision where
  | complete (output : String)
  | retry (reflection : Reflection) (delay : Int64)
  | fail (reflection : Reflection)
  | escalate (reflection : Reflection)
  deriving DecidableEq, Repr

namespace Decision

def reflection? : Decision → Option Reflection
  | complete _ => none
  | retry r _ | fail r | escalate r => some r

/-- The status that a decision leads to: `target_status`. -/
def target : Decision → TaskStatus
  | complete _ => .completed
  | retry _ _ => .pending
  | fail _ => .failed
  | escalate _ => .needsDecision

end Decision

/-- What recording a decision did: `Applied`. -/
inductive Applied where
  | transitioned (status : TaskStatus)
  /-- The attempt is settled already, and nothing changed. -/
  | duplicate
  deriving DecidableEq, Repr

/-- What an outside decision may make of a task that waits for one: `Resolution`. -/
inductive Resolution where
  | pending
  | failed
  deriving DecidableEq, Repr

namespace Resolution

def status : Resolution → TaskStatus
  | pending => .pending
  | failed => .failed

/-- `Resolution::try_from`. -/
def ofStatus : TaskStatus → Except TransitionError Resolution
  | .pending => .ok pending
  | .failed => .ok failed
  | other => .error (.invalidResolution other)

end Resolution

/-- What a reclaim did with a task: `Reclaimed`. -/
inductive Reclaimed where
  | requeued
  /-- The grace attempt was spent, too. -/
  | abandoned
  deriving DecidableEq, Repr

namespace Task

/-- The refusal of an action by a task in the wrong status: `illegal`. -/
def illegal (t : Task) (action : TaskAction) : Fault := .refused (.illegal action t.status)

/-- Appends a reflection: `record_reflection`. -/
def reflect (t : Task) (r : Reflection) : Task :=
  { t with lastFailureCategory := some r.category, reflections := t.reflections ++ [r] }

/-- The count of attempts with one more, `attempt_count + 1`. -/
def nextAttempt (t : Task) : Except Fault UInt32 :=
  if t.attemptCount.toNat + 1 < UInt32.size then .ok (t.attemptCount + 1) else .error .overflow

/-- The instant that lies a delay ahead, `now + delay_ms`; none if there is no delay. -/
def delayed (now : Instant) (delay : Int64) : Except Fault (Option Instant) :=
  if delay ≤ 0 then .ok none
  else if now.toInt + delay.toInt ≤ Int64.maxValue.toInt then .ok (some (now + delay))
  else .error .overflow

/-- Leaves room for at least one more attempt: `grant_attempt`. -/
def grantAttempt (t : Task) : Except Fault Task := do
  return { t with maxAttempts := max t.maxAttempts (← t.nextAttempt) }

/-- The task put back to wait for another attempt, at once. -/
def released (t : Task) : Except Fault Task :=
  grantAttempt { t with status := .pending, nextAttemptAt := none }

/-- `ensure_holder`. -/
def ensureHolder (t : Task) (worker : WorkerId) : Except Fault Unit :=
  if t.claimedBy = some worker then .ok ()
  else .error (.refused (.notHolder worker t.claimedBy))

/-- `Task::claim`. -/
def claim (t : Task) (worker : WorkerId) (now : Instant) : Except Fault Task :=
  if t.isClaimable now then
    .ok { t with status := .claimed, claimedBy := some worker, updatedAt := now }
  else .error (t.illegal .claim)

/-- Opens an attempt: `Task::start`. -/
def start (t : Task) (worker : WorkerId) (now : Instant) : Except Fault Task :=
  if t.status = .claimed then do
    t.ensureHolder worker
    return { t with
      status := .running, attemptCount := ← t.nextAttempt, nextAttemptAt := none,
      updatedAt := now }
  else .error (t.illegal .start)

/-- A sign of life from the holder: `Task::touch`. -/
def touch (t : Task) (worker : WorkerId) (now : Instant) : Except Fault Task :=
  if t.status.isHeld then do
    t.ensureHolder worker
    return { t with updatedAt := now }
  else .error (t.illegal .heartbeat)

/-- The task with what a decision about its attempt notes in it. -/
def noted (t : Task) (decision : Decision) (now : Instant) : Except Fault Task :=
  match decision with
  | .complete output => .ok { t with output := some output, lastFailureCategory := none }
  | .retry r delay => do
    let next ← delayed now delay
    return { t.reflect r with nextAttemptAt := next }
  | .fail r | .escalate r => .ok (t.reflect r)

/-- Settles an attempt, unless it is settled already: `apply_decision`. It refuses nothing. -/
def settle (t : Task) (attempt : UInt32) (decision : Decision) (now : Instant) :
    Except Fault (Applied × Task) :=
  if t.status = .running ∧ t.attemptCount = attempt then do
    let t ← t.noted decision now
    return (.transitioned decision.target,
      { t with status := decision.target, claimedBy := none, updatedAt := now })
  else .ok (.duplicate, t)

/-- Decides a task that waits for a decision: `Task::resolve`. -/
def resolve (t : Task) (resolution : Resolution) (output : Option String) (now : Instant) :
    Except Fault Task :=
  if t.status = .needsDecision then do
    let t ← match resolution with
      | .pending => t.released
      | .failed => .ok { t with status := .failed }
    return { t with output := output <|> t.output, updatedAt := now }
  else .error (t.illegal .resolve)

/-- Puts a failed task back: `Task::reopen`. -/
def reopen (t : Task) (now : Instant) : Except Fault Task :=
  if t.status = .failed then do
    let t ← t.released
    return { t with cancelled := false, updatedAt := now }
  else .error (t.illegal .reopen)

/-- Withdraws a pending task: `Task::cancel`. -/
def cancel (t : Task) (now : Instant) : Except Fault Task :=
  if t.status = .pending ∧ !t.cancelled then
    .ok { t with cancelled := true, updatedAt := now }
  else .error (t.illegal .cancel)

/-- What a reclaim of a running task leaves behind: the attempt counts, so it is explained. -/
def lostAttempt (t : Task) (now : Instant) : Reflection where
  attemptNumber := t.attemptCount
  category := .timeout
  blindSpot := "The worker holding this task stopped reporting before the attempt finished"
  nextAction :=
    "Check executor resource usage and the dispatcher host; the grace attempt is spent"
  failureExcerpt := "attempt abandoned by a stale worker"
  timestamp := now

/-- Takes a task from a worker that has fallen silent: `Task::reclaim`. -/
def reclaim (t : Task) (now : Instant) : Except Fault (Reclaimed × Task) :=
  match t.status with
  | .claimed => .ok (.requeued, { t with status := .pending, claimedBy := none, updatedAt := now })
  | .running =>
    let freed := { t with claimedBy := none, updatedAt := now }.reflect (t.lostAttempt now)
    if t.attemptCount > t.maxAttempts then .ok (.abandoned, { freed with status := .failed })
    else .ok (.requeued, { freed with status := .pending })
  | _ => .error (t.illegal .reclaim)

/-- Gives up waiting for a decision: `Task::expire_decision`. Who holds the task is not touched. -/
def expire (t : Task) (now : Instant) : Except Fault Task :=
  if t.status = .needsDecision then .ok { t with status := .failed, updatedAt := now }
  else .error (t.illegal .expire)

end Task

end TaskPipeline
