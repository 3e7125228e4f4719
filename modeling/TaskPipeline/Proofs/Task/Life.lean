import Mathlib.Data.List.Nodup
import TaskPipeline.Proofs.Task.Operation
import TaskPipeline.Retry

/-!
# The life of one task under retry policies

A life is a task together with what the workers hold of it: the snapshots that its starts returned
and the decisions that policies made from them. Operations, and the decisions, come in any order;
a decision may be recorded late, or again, or never. `Life.Traced` ties the three together, and
`Traced.decision` is what the rest rests on: whatever settles the running attempt was decided from
the task as it stands.
-/

namespace TaskPipeline

structure Life where
  task : Task
  /-- What the successful starts returned, in their order. -/
  opened : List Task
  /-- What policies decided so far, each with the attempt it is about. -/
  decided : List (UInt32 × Decision)

/-- What may happen to a task, or about it. -/
inductive Deed where
  | operate (op : Operation)
  /-- A worker has its attempt judged, by any policy. -/
  | decide (attempt : UInt32) (policy : RetryPolicy) (outcome : Outcome)

/-- The snapshot that an operation opens an attempt with. -/
def Operation.opens : Operation → Task → List Task
  | .start _, t => [t]
  | _, _ => []

namespace Life

/-- The life of a task that is created now. -/
def begin (id : TaskId) (new : NewTask) (asked : UInt32) (now : Instant) : Life :=
  ⟨Task.create id new asked now, [], []⟩

/-- An attempt is settled only by what a policy decided about it. -/
def Backs (l : Life) : Operation → Prop
  | .settle attempt decision => (attempt, decision) ∈ l.decided
  | _ => True

instance (l : Life) (op : Operation) : Decidable (l.Backs op) := by
  unfold Backs; split <;> infer_instance

/-- What a deed makes of a life. A refusal leaves it as it is, and nothing is decided about an
attempt that was never opened. -/
def step (l : Life) (now : Instant) : Deed → Life
  | .operate op =>
    if l.Backs op then
      match l.task.apply op now with
      | .ok task => { l with task := task, opened := l.opened ++ op.opens task }
      | .error _ => l
    else l
  | .decide attempt policy outcome =>
    match l.opened.find? fun s => s.attemptCount = attempt with
    | some s => { l with decided := l.decided ++ [(attempt, policy.decide s outcome now)] }
    | none => l

/-- The life after deeds at instants. -/
def run (l : Life) (history : List (Instant × Deed)) : Life :=
  history.foldl (fun l e => l.step e.1 e.2) l

/-- `Steps now l deed m`: everything that a deed can do to a life. -/
inductive Steps (now : Instant) (l : Life) : Deed → Life → Prop where
  | refused (deed : Deed) : Steps now l deed l
  | moved {op : Operation} {u : Task} : l.Backs op → l.task.apply op now = .ok u →
      l.task.Moves now op u →
      Steps now l (.operate op) { l with task := u, opened := l.opened ++ op.opens u }
  | judged {s : Task} (policy : RetryPolicy) (outcome : Outcome) : s ∈ l.opened →
      Steps now l (.decide s.attemptCount policy outcome)
        { l with decided := l.decided ++ [(s.attemptCount, policy.decide s outcome now)] }

theorem steps_step (l : Life) (now : Instant) (deed : Deed) :
    Steps now l deed (l.step now deed) := by
  cases deed with
  | operate op =>
    simp only [step]
    split
    · next hb =>
      split
      · next u hu => exact .moved hb hu (Task.moves_of_apply hu)
      · exact .refused _
    · exact .refused _
  | decide attempt policy outcome =>
    simp only [step]
    split
    · next s hs =>
      have hk : s.attemptCount = attempt := by simpa using List.find?_some hs
      subst hk
      exact .judged policy outcome (List.mem_of_find?_eq_some hs)
    · exact .refused _

/-- What holds of a new life and is kept by every deed holds of every life. -/
theorem run_keeps {P : Life → Prop} {l : Life} (h0 : P l)
    (hs : ∀ {l m now deed}, P l → Steps now l deed m → P m) (history : List (Instant × Deed)) :
    P (l.run history) := by
  induction history generalizing l with
  | nil => exact h0
  | cons e rest ih => exact ih (hs h0 (steps_step l e.1 e.2))

/-! ## What workers hold agrees with the task -/

structure Traced (l : Life) : Prop where
  /-- The starts opened the attempts one after the other. -/
  numbered : l.opened.map (·.attemptCount.toNat) = List.range' 1 l.task.attemptCount.toNat
  /-- Apart from signs of life a running task is as its start returned it. -/
  current : l.task.status = .running →
    ∃ s ∈ l.opened, l.task = { s with updatedAt := l.task.updatedAt }
  made : ∀ e ∈ l.decided, ∃ s ∈ l.opened, s.attemptCount = e.1 ∧
    ∃ policy : RetryPolicy, ∃ outcome now, e.2 = policy.decide s outcome now

theorem traced_begin (id : TaskId) (new : NewTask) (asked : UInt32) (now : Instant) :
    Traced (begin id new asked now) :=
  ⟨rfl, fun h => (nomatch h), fun _ h => (nomatch h)⟩

variable {l m : Life} {now : Instant} {deed : Deed}

theorem Traced.length_opened (h : Traced l) : l.opened.length = l.task.attemptCount.toNat := by
  have := congrArg List.length h.numbered
  simpa using this

/-- No attempt is opened twice. -/
theorem Traced.opened_unique (h : Traced l) {s t : Task} (hs : s ∈ l.opened) (ht : t ∈ l.opened)
    (he : s.attemptCount = t.attemptCount) : s = t := by
  have hnd : (l.opened.map (·.attemptCount.toNat)).Nodup := h.numbered ▸ List.nodup_range'
  exact List.inj_on_of_nodup_map hnd hs ht (by rw [he])

/-- A decision does not look at the signs of life. -/
theorem decide_touched (policy : RetryPolicy) (s : Task) (outcome : Outcome) (now beat : Instant) :
    policy.decide { s with updatedAt := beat } outcome now = policy.decide s outcome now := rfl

/-- **What settles the running attempt was decided from the task as it stands.** -/
theorem Traced.decision (h : Traced l) (hr : l.task.status = .running) {decision : Decision}
    (hd : (l.task.attemptCount, decision) ∈ l.decided) :
    ∃ policy : RetryPolicy, ∃ outcome now, decision = policy.decide l.task outcome now := by
  obtain ⟨s, hs, he⟩ := h.current hr
  obtain ⟨s', hs', hk, policy, outcome, at', rfl⟩ := h.made _ hd
  have hss : s' = s := h.opened_unique hs' hs (by rw [hk, he])
  refine ⟨policy, outcome, at', ?_⟩
  rw [← decide_touched policy s' outcome at' l.task.updatedAt, hss, ← he]

theorem Traced.moved (h : Traced l) {op : Operation} {u : Task} (hm : l.task.Moves now op u) :
    Traced { l with task := u, opened := l.opened ++ op.opens u } := by
  have hmade : ∀ e ∈ l.decided, ∃ s ∈ l.opened ++ op.opens u, s.attemptCount = e.1 ∧
      ∃ policy : RetryPolicy, ∃ outcome now, e.2 = policy.decide s outcome now := by
    intro e he
    obtain ⟨s, hs, hrest⟩ := h.made e he
    exact ⟨s, List.mem_append_left _ hs, hrest⟩
  -- only a start opens an attempt, and only a start or a sign of life leads to a running task
  cases hm with
  | start worker hs hw hlt =>
    refine ⟨?_, fun _ => ⟨_, List.mem_append_right _ (List.mem_singleton_self _), rfl⟩, hmade⟩
    simp only [Operation.opens, List.map_append, h.numbered, List.map_cons, List.map_nil,
      Task.toNat_succ hlt]
    rw [List.range'_concat]; simp [Nat.add_comm]
  | touch worker hs hw =>
    simp only [Operation.opens, List.append_nil] at hmade ⊢
    refine ⟨h.numbered, fun hr => ?_, hmade⟩
    obtain ⟨s, hm, he⟩ := h.current hr
    exact ⟨s, hm, by rw [he]⟩
  | late attempt decision hn =>
    simp only [Operation.opens, List.append_nil] at hmade ⊢
    exact ⟨h.numbered, h.current, hmade⟩
  | cancel hs hc =>
    simp only [Operation.opens, List.append_nil] at hmade ⊢
    exact ⟨h.numbered, fun hr => (nomatch hs.symm.trans hr), hmade⟩
  | _ =>
    simp only [Operation.opens, List.append_nil] at hmade ⊢
    exact ⟨h.numbered, fun hr => (nomatch hr), hmade⟩

theorem Traced.steps (h : Traced l) (hs : Steps now l deed m) : Traced m := by
  cases hs with
  | refused => exact h
  | moved _ _ hm => exact h.moved hm
  | judged policy outcome hs =>
    refine ⟨h.numbered, h.current, ?_⟩
    intro e he
    rcases List.mem_append.mp he with he | he
    · exact h.made e he
    · rw [List.mem_singleton.mp he]
      exact ⟨_, hs, rfl, policy, outcome, now, rfl⟩

end Life

end TaskPipeline
