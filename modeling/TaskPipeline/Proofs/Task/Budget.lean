import TaskPipeline.Proofs.Task.Life

/-!
# The attempt budget

`Budget` is what the counts of a task satisfy in each status. No operation checks it: a start counts
without looking, and it holds because a policy retries only below the ceiling, a reclaim gives up
on a task beyond it, and an outside decision that puts a task back raises it. Main statement:
`attempts_within_budget`.
-/

namespace TaskPipeline

/-- A waiting task is within its budget, any task at most one attempt beyond it. -/
structure Budget (t : Task) : Prop where
  pos : 1 ≤ t.maxAttempts.toNat
  waiting : t.status = .pending ∨ t.status = .claimed → t.attemptCount.toNat ≤ t.maxAttempts.toNat
  always : t.attemptCount.toNat ≤ t.maxAttempts.toNat + 1

theorem budget_create (id : TaskId) (new : NewTask) (asked : UInt32) (now : Instant) :
    Budget (Task.create id new asked now) := by
  have hm : (Task.create id new asked now).maxAttempts.toNat = max asked.toNat 1 :=
    Task.toNat_max asked 1
  have hc : (Task.create id new asked now).attemptCount.toNat = 0 := rfl
  exact ⟨by omega, fun _ => by omega, by omega⟩

/-- A policy that has a task retried leaves it an attempt. -/
theorem RetryPolicy.lt_of_decide_retry {policy : RetryPolicy} {t : Task} {outcome : Outcome}
    {now : Instant} {r : Reflection} {delay : Int64}
    (h : policy.decide t outcome now = .retry r delay) :
    t.attemptCount.toNat < t.maxAttempts.toNat := by
  unfold decide at h
  dsimp only at h
  split at h
  · cases h
  split at h
  · cases h
  split at h
  · cases h
  split at h
  · split at h <;> cases h
  · next hx =>
    simp only [isExhausted, Bool.or_eq_true, decide_eq_true_eq, not_or] at hx
    exact UInt32.lt_iff_toNat_lt.mp (UInt32.not_le.mp hx.2)

variable {t u : Task} {op : Operation} {now : Instant}

theorem Budget.moves (hb : Budget t) (hm : t.Moves now op u)
    (hretry : ∀ r delay, op = .settle t.attemptCount (.retry r delay) → t.status = .running →
      t.attemptCount.toNat < t.maxAttempts.toNat) : Budget u := by
  obtain ⟨hpos, hwait, hall⟩ := hb
  cases hm with
  | claim worker hc =>
    have hs := Task.pending_of_isClaimable hc
    exact ⟨hpos, fun _ => hwait (.inl hs), hall⟩
  | start worker hs hw hlt =>
    have hle := hwait (.inr hs)
    refine ⟨hpos, fun h => by simp at h, ?_⟩
    simp only [Task.toNat_succ hlt]
    omega
  | touch | late | cancel => exact ⟨hpos, hwait, hall⟩
  | retry r delay next hs hd => exact ⟨hpos, fun _ => Nat.le_of_lt (hretry r delay rfl hs), hall⟩
  | complete | fail | escalate | dismiss | abandon | expire =>
    exact ⟨hpos, fun h => by simp at h, hall⟩
  | resume output hs hlt | reopen hs hlt =>
    have hmax := Task.toNat_max t.maxAttempts (t.attemptCount + 1)
    rw [Task.toNat_succ hlt] at hmax
    exact ⟨by simp only [hmax]; omega, fun _ => by simp only [hmax]; omega,
      by simp only [hmax]; omega⟩
  | release hs => exact ⟨hpos, fun _ => hwait (.inr hs), hall⟩
  | requeue hs hle => exact ⟨hpos, fun _ => UInt32.le_iff_toNat_le.mp hle, hall⟩

/-- An outside decision that puts a task back for another attempt. -/
def Operation.Regrants : Operation → Prop
  | .resolve .pending _ | .reopen => True
  | _ => False

theorem Budget.ceiling (hb : Budget t) (hm : t.Moves now op u) :
    (u.maxAttempts ≠ t.maxAttempts → op.Regrants) ∧
      t.maxAttempts.toNat ≤ u.maxAttempts.toNat ∧
      u.maxAttempts.toNat ≤ t.maxAttempts.toNat + 2 := by
  have hall := hb.always
  cases hm with
  | resume output hs hlt | reopen hs hlt =>
    have hmax := Task.toNat_max t.maxAttempts (t.attemptCount + 1)
    rw [Task.toNat_succ hlt] at hmax
    exact ⟨fun _ => trivial, by simp only [hmax]; omega, by simp only [hmax]; omega⟩
  | _ => exact ⟨fun h => absurd rfl h, Nat.le_refl _, Nat.le_add_right _ 2⟩

namespace Life

theorem budget_steps {l m : Life} {deed : Deed} (h : Traced l ∧ Budget l.task)
    (hs : Steps now l deed m) : Traced m ∧ Budget m.task := by
  refine ⟨h.1.steps hs, ?_⟩
  cases hs with
  | refused => exact h.2
  | judged => exact h.2
  | moved hb _ hm =>
    refine h.2.moves hm ?_
    intro r delay ho hr
    subst ho
    obtain ⟨policy, outcome, at', hd⟩ := h.1.decision hr hb
    exact RetryPolicy.lt_of_decide_retry hd.symm

/-- **The attempts of a task stay within its budget.** Whatever is done to a task, in any order, by
any workers and under any policies: it always allows an attempt, its count is the number of starts
that succeeded, a waiting task is within the budget, and any task at most the one grace attempt
beyond it. Only an outside decision that puts the task back moves the ceiling, up and by at most
two. -/
theorem attempts_within_budget (id : TaskId) (new : NewTask) (asked : UInt32) (born : Instant)
    (history : List (Instant × Deed)) :
    let l := (begin id new asked born).run history
    1 ≤ l.task.maxAttempts.toNat ∧
    l.task.attemptCount.toNat = l.opened.length ∧
    (l.task.status = .pending ∨ l.task.status = .claimed →
      l.task.attemptCount.toNat ≤ l.task.maxAttempts.toNat) ∧
    l.task.attemptCount.toNat ≤ l.task.maxAttempts.toNat + 1 ∧
    ∀ now deed,
      let m := l.step now deed
      (m.task.maxAttempts ≠ l.task.maxAttempts →
        ∃ op, deed = .operate op ∧ op.Regrants ∧ l.task.apply op now = .ok m.task) ∧
      l.task.maxAttempts.toNat ≤ m.task.maxAttempts.toNat ∧
      m.task.maxAttempts.toNat ≤ l.task.maxAttempts.toNat + 2 := by
  intro l
  obtain ⟨ht, hb⟩ : Traced l ∧ Budget l.task :=
    run_keeps ⟨traced_begin id new asked born, budget_create id new asked born⟩ budget_steps history
  refine ⟨hb.pos, ht.length_opened.symm, hb.waiting, hb.always, ?_⟩
  intro now deed
  have hs := steps_step l now deed
  generalize l.step now deed = m at hs
  cases hs with
  | refused | judged => exact ⟨fun h => absurd rfl h, Nat.le_refl _, Nat.le_add_right _ 2⟩
  | moved _ ha hm =>
    obtain ⟨hgrant, hle, hlt⟩ := hb.ceiling hm
    exact ⟨fun h => ⟨_, rfl, hgrant h, ha⟩, hle, hlt⟩

end Life

end TaskPipeline
