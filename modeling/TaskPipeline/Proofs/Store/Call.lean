import TaskPipeline.Proofs.Task.Operation
import TaskPipeline.Store

/-!
# Calls of a store, and histories of them

A call is data, so that a history of a store is a list: every interleaving of any number of
workers, the reaper and outside decisions is one such list. `Store.trace` records what each call
saw and did. A call that asks one operation of one task answers as `Task.carry` says.
-/

namespace TaskPipeline

/-- A call of a store, with its arguments. -/
inductive Call where
  | create (id : TaskId) (new : NewTask) (maxAttempts : UInt32)
  | get (id : TaskId)
  | list (f : TaskFilter)
  | snapshot
  | claimable (types : List TaskType) (limit : UInt64)
  | claim (id : TaskId) (worker : WorkerId)
  | start (id : TaskId) (worker : WorkerId)
  | touch (id : TaskId) (worker : WorkerId)
  | recordOutcome (id : TaskId) (attempt : UInt32) (decision : Decision)
  | resolve (id : TaskId) (resolution : Resolution) (output : Option String)
  | reopen (id : TaskId)
  | cancel (id : TaskId)
  | reclaimStale (cutoff : Instant)
  | expireDecisions (cutoff : Instant)
  | writeMarker (marker : PipelineMarker)
  | readMarker
  | heartbeatMarker (beat : Instant)
  | recordFatal (issue : FatalIssue)
  | fatalIssue

/-- What a call that does not fail answers. -/
inductive Reply where
  | task (t : Task)
  | tasks (ts : List Task)
  | claim (result : ClaimResult)
  | done
  | settled (applied : Applied) (t : Task)
  | reclaimed (reports : List (TaskId × Reclaimed))
  | expired (ids : List TaskId)
  | marker (m : Option PipelineMarker)
  | fatal (issue : Option FatalIssue)

namespace Store

def answered {α : Type} (wrap : α → Reply) (step : Answer α × Store) : Answer Reply × Store :=
  (step.1.map wrap, step.2)

theorem answered_map {α β : Type} (f : α → β) (wrap : β → Reply) (step : Answer α × Store) :
    answered wrap (step.1.map f, step.2) = answered (fun a => wrap (f a)) step := by
  obtain ⟨answer, s⟩ := step
  cases answer <;> rfl

/-- Carries out a call. -/
def perform (s : Store) (now : Instant) : Call → Answer Reply × Store
  | .create id new maxAttempts => answered .task (s.create id new maxAttempts now)
  | .get id => ((s.get id).map .task, s)
  | .list f => ((s.list f).map .tasks, s)
  | .snapshot => (s.snapshot.map .tasks, s)
  | .claimable types limit => ((s.claimable types limit now).map .tasks, s)
  | .claim id worker => answered .claim (s.claim id worker now)
  | .start id worker => answered .task (s.start id worker now)
  | .touch id worker => answered (fun _ => .done) (s.touch id worker now)
  | .recordOutcome id attempt decision =>
    answered (fun r => .settled r.1 r.2) (s.recordOutcome id attempt decision now)
  | .resolve id resolution output => answered .task (s.resolve id resolution output now)
  | .reopen id => answered .task (s.reopen id now)
  | .cancel id => answered .task (s.cancel id now)
  | .reclaimStale cutoff => answered .reclaimed (s.reclaimStale cutoff now)
  | .expireDecisions cutoff => answered .expired (s.expireDecisions cutoff now)
  | .writeMarker marker => answered (fun _ => .done) (s.writeMarker marker)
  | .readMarker => (s.readMarker.map .marker, s)
  | .heartbeatMarker beat => answered (fun _ => .done) (s.heartbeatMarker beat)
  | .recordFatal issue => answered (fun _ => .done) (s.recordFatal issue)
  | .fatalIssue => (s.fatalIssue.map .fatal, s)

/-- How a call fails that a task refuses, or that panics. -/
def failure : Store → Fault → StoreError
  | memory _ => .inCaller
  | table _ => .inTask

/-- The task that a reader finds under an id. -/
def task? (s : Store) (id : TaskId) : Option Task := (s.get id).toOption

theorem task?_memory (m : MemoryStore) : (memory m).task? = m.find? := by
  funext i
  simp only [task?, get, MemoryStore.get]
  cases m.find? i <;> rfl

end Store

/-- One call in a history: what it found, what it answered and what it left. -/
structure Moment where
  before : Store
  now : Instant
  call : Call
  reply : Answer Reply
  after : Store

/-- Calls and the instants at which they come. -/
abbrev History := List (Instant × Call)

namespace Store

def moment (s : Store) (now : Instant) (c : Call) : Moment :=
  ⟨s, now, c, (s.perform now c).1, (s.perform now c).2⟩

def trace (s : Store) : History → List Moment
  | [] => []
  | (now, c) :: rest => s.moment now c :: (s.perform now c).2.trace rest

/-- The store after a history. -/
def run (s : Store) (history : History) : Store :=
  history.foldl (fun s e => (s.perform e.1 e.2).2) s

end Store

/-- The ids that a history creates tasks under. -/
def History.created (history : History) : List TaskId :=
  history.filterMap fun e => match e.2 with
    | .create id _ _ => some id
    | _ => none

/-! ## Operations on one task -/

/-- What a call asks of which task, if it is about one task that is there. -/
def Call.asks : Call → Option (TaskId × Operation)
  | .claim id worker => some (id, .claim worker)
  | .start id worker => some (id, .start worker)
  | .touch id worker => some (id, .touch worker)
  | .recordOutcome id attempt decision => some (id, .settle attempt decision)
  | .resolve id resolution output => some (id, .resolve resolution output)
  | .reopen id => some (id, .reopen)
  | .cancel id => some (id, .cancel)
  | _ => none

/-- The answer to an operation that a task refuses, or that panics. -/
def Operation.refusal (op : Operation) (fail : Fault → StoreError) (e : Fault) : Answer Reply :=
  match op with
  | .claim _ => .ok (.claim .alreadyClaimed)
  | _ => .error (fail e)

/-- The task after an operation, with what is answered about it. -/
def Task.carry (t : Task) (op : Operation) (now : Instant) :
    Except Fault (Reply × Task) :=
  match op with
  | .claim worker => (t.claim worker now).map fun u => (.claim (.claimed u), u)
  | .start worker => (t.start worker now).map fun u => (.task u, u)
  | .touch worker => (t.touch worker now).map fun u => (.done, u)
  | .settle attempt decision =>
    (t.settle attempt decision now).map fun r => (.settled r.1 r.2, r.2)
  | .resolve resolution output => (t.resolve resolution output now).map fun u => (.task u, u)
  | .reopen => (t.reopen now).map fun u => (.task u, u)
  | .cancel => (t.cancel now).map fun u => (.task u, u)
  | .reclaim => (t.reclaim now).map fun r => (.reclaimed [(t.id, r.1)], r.2)
  | .expire => (t.expire now).map fun u => (.expired [t.id], u)

namespace Task

/-- The task in the hands of a worker that has just claimed it. -/
def heldBy (t : Task) (worker : WorkerId) (now : Instant) : Task :=
  { t with status := .claimed, claimedBy := some worker, updatedAt := now }

variable {t u : Task} {op : Operation} {now : Instant}

theorem claim_won (h : t.isClaimable now = true) (worker : WorkerId) :
    t.claim worker now = .ok (t.heldBy worker now) := if_pos h

theorem claim_lost (h : t.isClaimable now = false) (worker : WorkerId) :
    t.claim worker now = .error (t.illegal .claim) := if_neg (by rw [h]; exact nofun)

theorem map_carry (t : Task) (op : Operation) (now : Instant) :
    (t.carry op now).map (·.2) = t.apply op now := by
  cases op with
  | claim worker => simp only [carry, apply]; cases t.claim worker now <;> rfl
  | start worker => simp only [carry, apply]; cases t.start worker now <;> rfl
  | touch worker => simp only [carry, apply]; cases t.touch worker now <;> rfl
  | settle attempt decision => simp only [carry, apply]; cases t.settle attempt decision now <;> rfl
  | resolve resolution output =>
    simp only [carry, apply]; cases t.resolve resolution output now <;> rfl
  | reopen => simp only [carry, apply]; cases t.reopen now <;> rfl
  | cancel => simp only [carry, apply]; cases t.cancel now <;> rfl
  | reclaim => simp only [carry, apply]; cases t.reclaim now <;> rfl
  | expire => simp only [carry, apply]; cases t.expire now <;> rfl

theorem moves_of_carry {q : Reply} (h : t.carry op now = .ok (q, u)) : t.Moves now op u :=
  moves_of_apply (by rw [← map_carry, h]; rfl)

theorem expire_moves (h : t.expire now = .ok u) : t.Moves now .expire u := moves_of_apply h

/-- No operation changes what identifies the work. -/
theorem Moves.keeps (h : t.Moves now op u) :
    u.id = t.id ∧ u.taskType = t.taskType ∧ u.direction = t.direction ∧ u.context = t.context ∧
      u.createdAt = t.createdAt := by
  cases h <;> exact ⟨rfl, rfl, rfl, rfl, rfl⟩

end Task

end TaskPipeline
