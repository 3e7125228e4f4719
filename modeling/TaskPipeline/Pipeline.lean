import TaskPipeline.Dispatch.Worker
import TaskPipeline.Reaper

/-!
A pipeline: workers and reapers on one store, under a steady clock that stands still while they
work and goes straight to the next instant at which one of them is due. Of several that are due at
one instant, the one goes first that has waited longest. Whoever drives the pipeline from outside
goes before all of them.
-/

namespace TaskPipeline

/-- Who acts in a pipeline of its own accord. -/
inductive Actor where
  | worker (x : Worker)
  | reaper (r : Reaper)

structure Pipeline where
  place : Workplace
  /-- Milliseconds since the pipeline was set up. -/
  clock : Nat := 0
  /-- The wall clock at the instant at which the steady clock was zero. -/
  epoch : Instant
  actors : List Actor := []

namespace Actor

/-- When the actor has something to do again. -/
def wake (a : Actor) (clock : Nat) : Option Worker.Wake :=
  match a with
  | worker x => x.wake clock
  | reaper r => some ⟨r.nextSweep, r.nextSweep - r.policy.interval⟩

def isLiveWorker : Actor → Bool
  | worker x => x.isLive
  | reaper _ => false

/-- Tells a worker that the shutdown has begun. -/
def cancel : Actor → Actor
  | worker x => worker { x with cancelled := true }
  | reaper r => reaper r

end Actor

namespace Pipeline

def clocks (p : Pipeline) : Clocks := ⟨p.epoch + Int64.ofNat p.clock, p.clock⟩

/-- The reading of the wall clock. -/
def now (p : Pipeline) : Instant := p.clocks.now

def withStore (p : Pipeline) (s : Store) : Pipeline :=
  { p with place := { p.place with store := s } }

/-- The workers whose loops have not ended. -/
def liveWorkers (p : Pipeline) : Nat := p.actors.countP Actor.isLiveWorker

/-! ## Bounds -/

/-- The attempts that a pending task still grants to workers that nobody else interferes with. -/
def attemptsLeft (t : Task) : Nat :=
  if t.status = .pending ∧ !t.cancelled then max 1 (t.maxAttempts.toNat - t.attemptCount.toNat)
  else 0

/-- The tasks of a store that can be read. -/
def readable : Store → List Task
  | .memory m => m.tasks
  | .table t => t.rows.filterMap fun r => r.toTask.toOption

/-- The attempts that all tasks together still grant. -/
def budget (s : Store) : Nat := (readable s).foldr (fun t n => attemptsLeft t + n) 0

/-- The steps that a worker needs at most before it can only wait. -/
def stepBound (s : Store) : Nat := (budget s + 2) * (s.size + 12)

/-! ## Time -/

/-- The least of some keyed values, the first one of equals. -/
def least {α : Type} (before : α → α → Bool) : List α → Option α
  | [] => none
  | x :: xs =>
    match least before xs with
    | none => some x
    | some y => if before y x then some y else some x

/-- The actor that is due first, by its place in the list. -/
def nextDue (p : Pipeline) : Option (Nat × Worker.Wake) :=
  least (fun a b => a.2.due < b.2.due || (a.2.due = b.2.due && a.2.since < b.2.since))
    (p.actors.zipIdx.filterMap fun (a, i) => (a.wake p.clock).map fun k => (i, k))

/-- Lets one actor act at the present instant until it can only wait. -/
def act (p : Pipeline) (i : Nat) : Pipeline :=
  match p.actors[i]? with
  | none => p
  | some (.worker x) =>
    let (x, place) := x.run p.clocks (stepBound p.place.store) p.place
    { p with place := place, actors := p.actors.set i (.worker x) }
  | some (.reaper r) =>
    let (_, store, notices) := r.policy.sweep p.now p.place.store
    let r := { r with nextSweep := p.clock + r.policy.interval }
    { p with
      place := { p.place with store := store, notices := p.place.notices ++ notices }
      actors := p.actors.set i (.reaper r) }

/-- Lets everything happen that is due before an instant, at most so many wakes. -/
def runBefore (instant : Nat) : Nat → Pipeline → Pipeline
  | 0, p => p
  | fuel + 1, p =>
    match p.nextDue with
    | none => p
    | some (i, k) =>
      if k.due < instant then
        runBefore instant fuel ({ p with clock := max p.clock k.due }.act i)
      else p

/-- The wakes that can come before an instant: each actor's come at different instants. -/
def wakeBound (p : Pipeline) (instant : Nat) : Nat :=
  p.actors.length * (instant - p.clock + 2) + 1

/-- Lets time pass up to an instant. -/
def passUntil (p : Pipeline) (instant : Nat) : Pipeline :=
  let p := p.runBefore instant (p.wakeBound instant)
  { p with clock := max p.clock instant }

/-- Lets a span pass. -/
def pass (p : Pipeline) (s : Span) : Pipeline := p.passUntil (p.clock + s)

/-! ## Work from outside -/

/-- Sees a poll through that is driven from outside, at most so many steps: whether it claimed a
task, or none if it broke down. -/
def finishPoll (policy : DispatchPolicy) (worker : WorkerId) :
    Nat → Poll → Pipeline → Option Bool × Pipeline
  | 0, _, p => (none, p)
  | fuel + 1, poll, p =>
    match poll with
    | .ended ran => (some ran, p)
    | .crashed => (none, p)
    | poll =>
      let p := match poll.waitsUntil with
        | some instant => p.passUntil instant
        | none => p
      let (poll, place) := poll.step policy worker p.clocks p.place
      finishPoll policy worker fuel poll { p with place := place }

/-- The signs of life that one attempt can give, and the other steps of a poll. -/
def pollBound (p : Pipeline) (policy : DispatchPolicy) : Nat :=
  let limits := p.place.gateway.defaultLimit :: p.place.gateway.registry.limits.map (·.2)
  limits.foldl max 0 / policy.heartbeatInterval + p.place.store.size + 12

/-- Polls once: `poll_once`. -/
def poll (p : Pipeline) (policy : DispatchPolicy) (worker : WorkerId) : Option Bool × Pipeline :=
  finishPoll policy worker (p.pollBound policy) .gating p

/-- Polls until a poll finds no work, and counts the others; at most so many. -/
def drainUpTo (policy : DispatchPolicy) (worker : WorkerId) : Nat → Pipeline → Nat × Pipeline
  | 0, p => (0, p)
  | fuel + 1, p =>
    match p.poll policy worker with
    | (some true, p) =>
      let (n, p) := drainUpTo policy worker fuel p
      (n + 1, p)
    | (_, p) => (0, p)

/-- Polls until a poll finds no work, and counts the others: `Dispatcher::drain`. -/
def drain (p : Pipeline) (policy : DispatchPolicy) (worker : WorkerId) : Nat × Pipeline :=
  drainUpTo policy worker (budget p.place.store + 1) p

/-- Runs a task through the gateway and waits for the outcome: `ExecutorGateway::run`. -/
def attempt (p : Pipeline) (task : Task) : Outcome × Pipeline :=
  let (launched, gateway) := p.place.gateway.launch task p.clock
  let p := { p with place := { p.place with gateway := gateway } }
  match launched with
  | .error outcome => (outcome, p)
  | .ok a =>
    let p := p.passUntil a.overAt
    let (outcome, gateway) := p.place.gateway.finish a
    (outcome, { p with place := { p.place with gateway := gateway } })

/-- Starts the workers of a dispatcher, with ids made from a name and their number:
`Dispatcher::spawn`. -/
def spawn (p : Pipeline) (policy : DispatchPolicy) (name : String) : Pipeline :=
  let workers := (List.range policy.workers).map fun n =>
    Actor.worker { id := name ++ toString n, policy := policy }
  { p with actors := p.actors ++ workers }

/-- The last instant at which an attempt under way is over. -/
def horizon (p : Pipeline) : Nat :=
  p.actors.foldl (fun t a =>
    match a with
    | .worker { phase := .polling (.attempting a _), .. } => max t a.overAt
    | _ => t) p.clock

/-- Stops all workers and waits until they have ended. -/
def stop (p : Pipeline) : Pipeline :=
  let p := { p with actors := p.actors.map Actor.cancel }
  let p := p.runBefore (p.horizon + 1) (p.wakeBound (p.horizon + 1))
  { p with actors := p.actors.filter fun a => !a matches .worker _ }

/-- Runs a reaper for a span: `Reaper::run`. -/
def reap (p : Pipeline) (policy : ReaperPolicy) (s : Span) : Pipeline :=
  let p := { p with actors := p.actors ++ [Actor.reaper ⟨policy, p.clock⟩] }
  let p := p.pass s
  { p with actors := p.actors.filter fun a => a matches .worker _ }

end Pipeline

end TaskPipeline
