import TaskPipeline.Proofs.Dispatch.Course

/-!
# What a poll spends

What all open tasks together still grant (`Store.grants`) and what a poll has of it in hand
(`Poll.worth`) never get more while nobody else works on the store (`Poll.Goes.spends`). A poll that
has run a task is worth one attempt, and the next one begins with nothing.
-/

namespace TaskPipeline

open Pipeline (readable attemptsLeft)

/-! ## What is granted -/

/-- The attempts that a task grants to those who take these types. -/
def Task.grants (types : List TaskType) (t : Task) : Nat :=
  if t.isOf types then attemptsLeft t else 0

/-- The attempts that all tasks together grant. -/
def Store.grants (types : List TaskType) (s : Store) : Nat :=
  ((readable s).map (·.grants types)).sum

/-- What all tasks grant is within the budget of a store. -/
theorem Store.grants_le_budget (types : List TaskType) (s : Store) :
    s.grants types ≤ Pipeline.budget s := by
  unfold Store.grants Pipeline.budget
  induction readable s with
  | nil => exact Nat.le_refl _
  | cons t ts ih =>
    have hle : t.grants types ≤ attemptsLeft t := by
      unfold Task.grants
      split
      · exact Nat.le_refl _
      · exact Nat.zero_le _
    exact Nat.add_le_add hle ih

/-- What a poll has in hand of the attempts that were granted, the one that it is at included. -/
def Poll.worth : Poll → Nat
  | starting t => max 1 (t.maxAttempts.toNat - t.attemptCount.toNat)
  | launching t | settling t _ => 1 + (t.maxAttempts.toNat - t.attemptCount.toNat)
  | attempting a _ => 1 + (a.task.maxAttempts.toNat - a.task.attemptCount.toNat)
  | telling _ | ended true => 1
  | gating | querying | claiming _ | ended false | crashed => 0

/-! ## Steps of a poll that works alone -/

namespace Poll

/-- What a poll that works alone can rely on: the store backs it, and what waits or has been claimed
can be started. -/
structure Ready (worker : WorkerId) (s : Store) (poll : Poll) : Prop where
  keyed : s.Keyed
  backed : poll.Backed worker s
  waiting : ∀ t, s.task? t.id = some t → t.status = .pending →
    t.attemptCount.toNat + 1 < UInt32.size
  claimed : ∀ t, poll = starting t → t.attemptCount.toNat + 1 < UInt32.size

section Step

variable {p : DispatchPolicy} {worker : WorkerId} {c : Clocks} {w w' : Workplace}
  {poll poll' : Poll} {u : Task} {s s' : Store}

/-- What waits can still be started if this holds of the task that takes a place. -/
theorem waiting_replaces (hs : s.Replaces u s')
    (hwaiting : ∀ t, s.task? t.id = some t → t.status = .pending →
      t.attemptCount.toNat + 1 < UInt32.size)
    (hu : u.status = .pending → u.attemptCount.toNat + 1 < UInt32.size) (t : Task)
    (ht : s'.task? t.id = some t) (hpending : t.status = .pending) :
    t.attemptCount.toNat + 1 < UInt32.size := by
  by_cases hid : t.id = u.id
  · rw [hid, hs.puts.self] at ht
    cases ht
    exact hu hpending
  · rw [hs.puts.other hid] at ht
    exact hwaiting t ht hpending

theorem Goes.ready (h : Goes p worker c w poll poll' w') (hr : Ready worker w.store poll) :
    Ready worker w'.store poll' where
  keyed := by
    cases h with
    | wins _ _ hs | starts _ _ hs | signs _ _ _ hs | settles _ _ hs =>
      exact hr.keyed.of_ids hs.puts.ids
    | _ => exact hr.keyed
  backed := h.backed hr.keyed hr.backed
  waiting := by
    cases h with
    | wins _ _ hs => exact waiting_replaces hs hr.waiting nofun
    | starts _ hm hs =>
      cases hm with
      | start => exact waiting_replaces hs hr.waiting nofun
    | signs _ _ _ hs =>
      exact waiting_replaces hs hr.waiting fun hpending =>
        nomatch hpending.symm.trans hr.backed.status
    | @settles r _ _ _ _ _ hu hs =>
      refine waiting_replaces hs hr.waiting fun hpending => ?_
      have hlt := hu.retried hpending
      rw [hu.attemptCount]
      exact Nat.lt_of_le_of_lt hlt r.maxAttempts.toNat_lt
    | _ => exact hr.waiting
  claimed := by
    cases h with
    | @wins _ v _ _ hv hopen =>
      rintro t ⟨⟩
      have hid := Store.id_of_task? hv
      exact hr.waiting v (by rw [hid]; exact hv) (Task.pending_of_isClaimable hopen)
    | _ => rintro t ⟨⟩

end Step

end Poll

/-! ## What a step spends -/

namespace Task

variable {types : List TaskType} {t r u : Task} {now : Instant}

/-- What could be claimed can be claimed later, if nobody has changed it. -/
theorem isClaimable_later {later : Instant} (h : t.isClaimable now = true) (hle : now ≤ later) :
    t.isClaimable later = true := by
  simp only [isClaimable, Bool.and_eq_true, decide_eq_true_eq] at h ⊢
  refine ⟨h.1, ?_⟩
  cases hat : t.nextAttemptAt with
  | none => rfl
  | some at' =>
    rw [hat] at h
    exact decide_eq_true (Int64.le_trans (of_decide_eq_true h.2) hle)

/-- Only what waits grants attempts. -/
theorem grants_eq_zero (h : t.status ≠ .pending) : t.grants types = 0 := by
  simp [grants, attemptsLeft, h]

/-- A task that is open grants what it has left, and one attempt in any case. -/
theorem grants_open (h : t.isClaimable now = true) (htype : t.isOf types = true) :
    t.grants types = max 1 (t.maxAttempts.toNat - t.attemptCount.toNat) := by
  simp only [isClaimable, Bool.and_eq_true, decide_eq_true_eq] at h
  rw [grants, if_pos htype, attemptsLeft, if_pos h.1]

/-- A task that is settled grants no more than what it has left. -/
theorem Settled.grants_le (h : r.Settled u) :
    u.grants types ≤ r.maxAttempts.toNat - r.attemptCount.toNat := by
  by_cases hpending : u.status = .pending
  · have hlt := h.retried hpending
    simp only [grants, attemptsLeft, h.maxAttempts, h.attemptCount]
    split
    · split <;> omega
    · exact Nat.zero_le _
  · rw [grants_eq_zero hpending]
    exact Nat.zero_le _

end Task

namespace Poll

variable {p : DispatchPolicy} {worker : WorkerId} {c : Clocks} {w w' : Workplace}
  {poll poll' : Poll}

/-- **No step of a poll makes more of what is granted**, in the store or in hand. -/
theorem Goes.spends (h : Goes p worker c w poll poll' w') (hr : Ready worker w.store poll)
    (hwanted : ∀ ts, poll = claiming ts → ∀ t ∈ ts, t.isOf p.taskTypes = true) :
    poll'.worth + w'.store.grants p.taskTypes ≤ poll.worth + w.store.grants p.taskTypes := by
  have hsum : ∀ {t u : Task} {s : Store}, w.store.Replaces u s → w.store.task? u.id = some t →
      s.grants p.taskTypes + t.grants p.taskTypes =
        w.store.grants p.taskTypes + u.grants p.taskTypes :=
    fun hs ht => hr.keyed.sum_replaces hs ht _
  cases h with
  | @wins t v rest s hv hopen hs =>
    obtain ⟨v', hv', htype⟩ := hr.backed t List.mem_cons_self
    cases hv.symm.trans hv'
    have hof : v.isOf p.taskTypes = true := by
      rw [Task.isOf, htype]
      exact hwanted _ rfl t List.mem_cons_self
    have hid : v.id = t.id := Store.id_of_task? hv
    have hgrants := hsum hs (t := v) (by rw [← hid] at hv; exact hv)
    have hheld : (v.heldBy worker c.now).grants p.taskTypes = 0 :=
      Task.grants_eq_zero (show TaskStatus.claimed ≠ .pending by decide)
    rw [Task.grants_open hopen hof, hheld] at hgrants
    simp only [worth, Task.heldBy]
    omega
  | @starts t r s hfound hm hs =>
    have hgrants := hsum hs (hm.keeps.1 ▸ hfound)
    cases hm with
    | start _ hstatus _ hfits =>
      have hclaimed : t.grants p.taskTypes = 0 := Task.grants_eq_zero (by rw [hstatus]; decide)
      rw [hclaimed, Task.grants_eq_zero (show TaskStatus.running ≠ .pending by decide)] at hgrants
      simp only [worth, Task.toNat_succ hfits]
      omega
  | @signs a _ _ s _ _ hfound hs =>
    have hgrants := hsum hs hfound
    have hzero : ∀ at', ({ a.task with updatedAt := at' } : Task).grants p.taskTypes = 0 :=
      fun _ => Task.grants_eq_zero (show a.task.status ≠ _ by rw [hr.backed.status]; decide)
    rw [hzero, hzero] at hgrants
    simp only [worth]
    omega
  | @settles r u _ _ s hfound hu hs =>
    have hgrants := hsum hs (by rw [hu.id_eq]; exact hfound)
    have hle : u.grants p.taskTypes ≤ _ := hu.grants_le
    simp only [worth]
    omega
  | launches _ htask => subst htask; exact Nat.le_refl _
  | breaks | stalls | tells | finishes | fails | waits | rests | lies | refused | admitted | finds
  | errs | leaves | loses => simp [worth, Workplace.tell]

end Poll

end TaskPipeline
