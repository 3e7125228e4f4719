import TaskPipeline.Dispatch.Policy
import TaskPipeline.Executor.Gateway
import TaskPipeline.Notice
import TaskPipeline.Retry
import TaskPipeline.Store

/-!
One poll of a worker: ask the gate, look for candidates, claim one of them and see it through. Each
step of a poll does one thing that others can notice, so the polls of several workers can be
interleaved step by step. A poll waits only while its attempt is under way.

| here | there |
| --- | --- |
| `gating`, `querying`, `claiming` | `Dispatcher::poll_once` up to the claim: `is_healthy`, `claimable`, and `claim` for one candidate after the other |
| `starting`, `launching` | `run_claimed` up to the launch in `ExecutorGateway::run`: `start`, and the first turn of the attempt |
| `attempting` | the loop of `run_claimed` over the attempt and the ticks of its heartbeat |
| `settling`, `telling` | the rest of `run_claimed`: `decide` and `record_outcome`, then `notify` |
| `ended`, `crashed` | the answer of `poll_once`, or that it panicked |
-/

namespace TaskPipeline

/-- What workers share. -/
structure Workplace where
  store : Store
  gateway : Gateway
  policy : RetryPolicy
  /-- The gate says that new work may begin. -/
  gateOpen : Bool := true
  /-- So many questions to the gate will break down. -/
  gatePanics : Nat := 0
  /-- In the order in which they were sent. -/
  notices : List Notice := []

/-- The readings of the wall clock and of the steady clock, in milliseconds. -/
structure Clocks where
  now : Instant
  steady : Nat
  deriving Repr

namespace Workplace

/-- Sends the notice about a task, if there is one: `notify` of what `for_task` gives. -/
def tell (w : Workplace) (task : Task) : Workplace :=
  { w with notices := w.notices ++ (Notice.ofTask? task).toList }

end Workplace

/-- Where a poll stands. -/
inductive Poll where
  | gating
  | querying
  | claiming (candidates : List Task)
  | starting (claimed : Task)
  | launching (running : Task)
  | attempting (attempt : Attempt) (nextBeat : Nat)
  | settling (running : Task) (outcome : Outcome)
  | telling (settled : Task)
  /-- Ended; the flag tells whether a task was claimed. -/
  | ended (ran : Bool)
  /-- Broken down: the gate did, a call of the store did, or no time at all was to lie between two
  signs of life. -/
  | crashed

namespace Poll

/-- Until when a poll has nothing to do. -/
def waitsUntil : Poll → Option Nat
  | attempting a beat => some (min a.overAt beat)
  | _ => none

/-- Asks the gate. -/
def gate (w : Workplace) : Poll × Workplace :=
  match w.gatePanics with
  | 0 => (if w.gateOpen then querying else ended false, w)
  | n + 1 => (crashed, { w with gatePanics := n })

/-- Claims the first candidate that can be had. -/
def claimFirst (worker : WorkerId) (c : Clocks) (w : Workplace) : List Task → Poll × Workplace
  | [] => (ended false, w)
  | candidate :: rest =>
    let (answer, store) := w.store.claim candidate.id worker c.now
    let w := { w with store := store }
    match answer with
    | .ok (.claimed task) => (starting task, w)
    | .ok .alreadyClaimed | .error _ => (claiming rest, w)

/-- Gives a sign of life in an attempt when one is due. -/
def giveSign (p : DispatchPolicy) (worker : WorkerId) (c : Clocks) (w : Workplace) (a : Attempt)
    (beat : Nat) : Poll × Workplace :=
  if beat ≤ c.steady then
    let (_, store) := w.store.touch a.task.id worker c.now
    (attempting a (beat + p.heartbeatInterval), { w with store := store })
  else (attempting a beat, w)

/-- Goes on with an attempt: ends it when it is over, else gives a sign of life when one is due. -/
def attend (p : DispatchPolicy) (worker : WorkerId) (c : Clocks) (w : Workplace) (a : Attempt)
    (beat : Nat) : Poll × Workplace :=
  if a.overAt ≤ c.steady then
    let (outcome, gateway) := w.gateway.finish a
    (settling a.task outcome, { w with gateway := gateway })
  else giveSign p worker c w a beat

/-- Where a poll stands after a call about the task it claimed that gives no answer. -/
def abandon : StoreError → Poll
  | .panicked => crashed
  | _ => ended true

/-- Records what becomes of the task. Only a decision that took effect is told. -/
def settle (c : Clocks) (w : Workplace) (running : Task) (outcome : Outcome) : Poll × Workplace :=
  let decision := w.policy.decide running outcome c.now
  let (answer, store) := w.store.recordOutcome running.id running.attemptCount decision c.now
  let w := { w with store := store }
  match answer with
  | .ok (.transitioned _, task) => (telling task, w)
  | .ok (.duplicate, _) => (ended true, w)
  | .error e => (abandon e, w)

/-- The next step of a poll: `poll_once` with `run_claimed` inside, from one await to the next. -/
def step (p : DispatchPolicy) (worker : WorkerId) (c : Clocks) (poll : Poll) (w : Workplace) :
    Poll × Workplace :=
  match poll with
  | gating => gate w
  | querying =>
    match w.store.claimable p.taskTypes p.claimBatch c.now with
    | .ok candidates => (claiming candidates, w)
    | .error _ => (ended false, w)
  | claiming candidates => claimFirst worker c w candidates
  | starting claimed =>
    let (answer, store) := w.store.start claimed.id worker c.now
    match answer with
    | .ok running => (launching running, { w with store := store })
    | .error e => (abandon e, { w with store := store })
  | launching running =>
    if p.heartbeatInterval = 0 then (crashed, w)
    else
      let (launched, gateway) := w.gateway.launch running c.steady
      let w := { w with gateway := gateway }
      match launched with
      | .ok attempt => (attempting attempt (c.steady + p.heartbeatInterval), w)
      | .error outcome => (settling running outcome, w)
  | attempting a beat => attend p worker c w a beat
  | settling running outcome => settle c w running outcome
  | telling settled => (ended true, w.tell settled)
  | ended ran => (ended ran, w)
  | crashed => (crashed, w)

end Poll

end TaskPipeline
