import TaskPipeline.Dispatch.Poll

/-!
Workers: each polls again and again, at once after a poll that found work and after a rest
otherwise, until the shutdown begins. A shutdown ends a rest, and never an attempt. A poll that
breaks down counts as one that found nothing.
-/

namespace TaskPipeline

/-- Where a worker stands. -/
inductive WorkerPhase where
  /-- About to see whether the shutdown has begun. -/
  | deciding
  | polling (poll : Poll)
  | resting (wakes : Nat)
  | stopped

structure Worker where
  id : WorkerId
  policy : DispatchPolicy
  /-- The shutdown of its dispatcher has begun. -/
  cancelled : Bool := false
  phase : WorkerPhase := .deciding

namespace Worker

/-- The worker's loop has not ended. -/
def isLive (x : Worker) : Bool :=
  match x.phase with
  | .stopped => false
  | _ => true

/-- A worker that waits for an instant, with the instant from which on it has waited. -/
structure Wake where
  due : Nat
  since : Nat
  deriving Repr

/-- When the worker has something to do again; none once it has stopped. -/
def wake (x : Worker) (clock : Nat) : Option Wake :=
  match x.phase with
  | .deciding => some ⟨clock, clock⟩
  | .polling (.attempting a beat) =>
    if a.overAt ≤ beat then some ⟨a.overAt, a.startedAt⟩
    else some ⟨beat, beat - x.policy.heartbeatInterval⟩
  | .polling _ => some ⟨clock, clock⟩
  | .resting wakes =>
    if x.cancelled then some ⟨clock, clock⟩ else some ⟨wakes, wakes - x.policy.pollInterval⟩
  | .stopped => none

/-- The next step of a worker: `worker_loop`. -/
def step (x : Worker) (c : Clocks) (w : Workplace) : Worker × Workplace :=
  match x.phase with
  | .deciding =>
    ({ x with phase := if x.cancelled then .stopped else .polling .gating }, w)
  | .polling (.ended true) => ({ x with phase := .deciding }, w)
  | .polling (.ended false) | .polling .crashed =>
    ({ x with phase := .resting (c.steady + x.policy.pollInterval) }, w)
  | .polling poll =>
    let (poll, w) := poll.step x.policy x.id c w
    ({ x with phase := .polling poll }, w)
  | .resting wakes =>
    if x.cancelled then ({ x with phase := .stopped }, w)
    else if wakes ≤ c.steady then ({ x with phase := .deciding }, w)
    else (x, w)
  | .stopped => (x, w)

/-- The worker can only wait. -/
def isBlocked (x : Worker) (clock : Nat) : Bool :=
  (x.wake clock).all fun k => clock < k.due

/-- Steps until the worker can only wait, at most so many. -/
def run (c : Clocks) : Nat → Worker → Workplace → Worker × Workplace
  | 0, x, w => (x, w)
  | fuel + 1, x, w =>
    if x.isBlocked c.steady then (x, w)
    else
      let (x, w) := x.step c w
      run c fuel x w

end Worker

end TaskPipeline
