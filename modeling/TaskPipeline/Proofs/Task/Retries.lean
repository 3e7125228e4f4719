import TaskPipeline.Proofs.Task.Budget

/-!
# Retries over a whole life

A policy keeps no count of its retries: it counts the failures of the category in the snapshot that
the attempt began with. `RetryPolicy.Decides` lists what a policy can decide; since nothing ever
takes a reflection back, and whatever settles an attempt was decided from the task as it stands, the
cap of a category bounds the retries of a whole life. Main statement: `retries_capped`.
-/

namespace TaskPipeline

/-! ## What a policy decides -/

namespace RetryPolicy

/-- Everything that a policy can decide about the attempt of a task. -/
inductive Decides (p : RetryPolicy) (t : Task) (outcome : Outcome) (now : Instant) :
    Decision → Prop where
  | ambiguous : outcome.isAmbiguous = true →
      Decides p t outcome now (.escalate (ambiguity t outcome now))
  | succeeded : Decides p t outcome now (.complete outcome.output)
  | hopeless : (categoryOf outcome).rule.retryable = false →
      Decides p t outcome now (.fail (reflectionOn t outcome now))
  /-- A generic failure that may not be retried any more. -/
  | puzzling : outcome.success = false → categoryOf outcome = .generic →
      isExhausted t .generic = true →
      Decides p t outcome now (.escalate (reflectionOn t outcome now))
  | exhausted : (categoryOf outcome).rule.retryable = true →
      Decides p t outcome now (.fail (reflectionOn t outcome now))
  | retried (delay : Int64) : (categoryOf outcome).rule.retryable = true →
      isExhausted t (categoryOf outcome) = false →
      Decides p t outcome now (.retry (reflectionOn t outcome now) delay)

theorem decides_decide (p : RetryPolicy) (t : Task) (outcome : Outcome) (now : Instant) :
    p.Decides t outcome now (p.decide t outcome now) := by
  unfold decide
  split
  · next ha => exact .ambiguous ha
  split
  · exact .succeeded
  next hs =>
  dsimp only
  split
  · next hr => exact .hopeless (by simpa using hr)
  next hr =>
  have hr : (categoryOf outcome).rule.retryable = true := by simpa using hr
  split
  · next hx =>
    split
    · next hc => exact .puzzling (Bool.not_eq_true _ ▸ hs) hc (hc ▸ hx)
    · exact .exhausted hr
  · next hx => exact .retried _ hr (Bool.not_eq_true _ ▸ hx)

/-- A category that is not exhausted has a retry left, and the task an attempt. -/
theorem isExhausted_eq_false {t : Task} {c : FailureCategory} :
    isExhausted t c = false ↔
      (∀ cap, c.rule.maxRetries = some cap → t.failuresOf c < cap) ∧
        t.attemptCount < t.maxAttempts := by
  cases hcap : c.rule.maxRetries <;> simp [isExhausted, hcap]

end RetryPolicy

/-- The decision has the task retried after a failure of the category. -/
def Decision.retries (c : FailureCategory) : Decision → Bool
  | .retry r _ => r.category = c
  | _ => false

namespace Life

/-- The decision that a deed puts on record, if it settles the attempt that runs. -/
def records (l : Life) (now : Instant) : Deed → Option Decision
  | .operate (.settle attempt decision) =>
    if l.Backs (.settle attempt decision) then
      match l.task.settle attempt decision now with
      | .ok (.transitioned _, _) => some decision
      | _ => none
    else none
  | _ => none

/-- The decisions that a history puts on record, in their order. -/
def recorded (l : Life) : List (Instant × Deed) → List Decision
  | [] => []
  | (now, deed) :: rest => (l.records now deed).toList ++ (l.step now deed).recorded rest

/-- The retries of a category that a history puts on record. -/
def retries (l : Life) (history : List (Instant × Deed)) (c : FailureCategory) : Nat :=
  (l.recorded history).countP (·.retries c)

variable {l m : Life} {now : Instant} {deed : Deed} {decision : Decision}

/-- What is put on record is what a policy decides about the task as it stands, and the task moves
accordingly. -/
theorem Traced.recorded (h : Traced l) (hd : l.records now deed = some decision) :
    (∃ policy : RetryPolicy, ∃ outcome at', decision = policy.decide l.task outcome at') ∧
      l.task.Moves now (.settle l.task.attemptCount decision) (l.step now deed).task ∧
      l.task.status = .running := by
  unfold records at hd
  split at hd
  · next attempt decision' =>
    split at hd
    · next hb =>
      split at hd
      · next status u hsettle =>
        cases hd
        obtain ⟨hm, ⟨⟨⟩, _⟩ | ⟨_, hr, rfl⟩⟩ := Task.settle_eq_ok hsettle
        have hstep : l.step now (.operate (.settle l.task.attemptCount decision)) =
            { l with task := u, opened := l.opened ++ [] } := by
          simp only [step, if_pos hb, Task.apply, hsettle, Except.map, Operation.opens]
        rw [hstep]
        exact ⟨h.decision hr hb, hm, hr⟩
      · cases hd
    · cases hd
  · cases hd

/-- The decision that settles the attempt that runs is put on record. -/
theorem records_settle {u : Task} (hb : l.Backs (.settle l.task.attemptCount decision))
    (ha : l.task.apply (.settle l.task.attemptCount decision) now = .ok u)
    (hr : l.task.status = .running) :
    l.records now (.operate (.settle l.task.attemptCount decision)) = some decision := by
  obtain ⟨⟨a, v⟩, hsettle, -⟩ := Task.map_eq_ok.mp ha
  obtain ⟨-, ⟨-, hlate⟩ | ⟨rfl, -⟩⟩ := Task.settle_eq_ok hsettle
  · exact absurd ⟨hr, rfl⟩ hlate
  · simp only [records, if_pos hb, hsettle]

/-! ## Caps -/

/-- Nothing takes a reflection back. -/
theorem failuresOf_steps (hs : Steps now l deed m) (c : FailureCategory) :
    l.task.failuresOf c ≤ m.task.failuresOf c := by
  cases hs with
  | refused | judged => exact Nat.le_refl _
  | moved _ _ hm => cases hm <;> simp [Task.failuresOf, Task.reflect, List.filter_append]

/-- A retry that is put on record was within the cap of its category, of which it leaves one more
failure behind, and within the attempts of the task. -/
theorem Traced.retried (h : Traced l) (hd : l.records now deed = some decision)
    {c : FailureCategory} (hr : decision.retries c = true) :
    (∀ cap, c.rule.maxRetries = some cap → l.task.failuresOf c < cap) ∧
      (l.step now deed).task.failuresOf c = l.task.failuresOf c + 1 ∧
      (l.step now deed).task.attemptCount < (l.step now deed).task.maxAttempts := by
  obtain ⟨⟨policy, outcome, at', rfl⟩, hm, hrunning⟩ := h.recorded hd
  have hdecides := policy.decides_decide l.task outcome at'
  generalize policy.decide l.task outcome at' = decision at hdecides hm hr
  cases hdecides with
  | retried delay _ hx =>
    have hc : RetryPolicy.categoryOf outcome = c := by
      exact of_decide_eq_true hr
    rw [hc] at hx
    obtain ⟨hcap, hroom⟩ := RetryPolicy.isExhausted_eq_false.mp hx
    generalize (l.step now deed).task = u at hm ⊢
    cases hm with
    | late _ _ hlate => exact absurd ⟨hrunning, rfl⟩ hlate
    | retry =>
      refine ⟨hcap, ?_, hroom⟩
      simp [Task.failuresOf, Task.reflect, List.filter_append, RetryPolicy.reflectionOn, hc]
  | _ => cases hr

/-- The retries to come and those that the failures of the task stand for are within the cap. -/
theorem Traced.retries_le (h : Traced l) {c : FailureCategory} {cap spent : Nat}
    (hcap : c.rule.maxRetries = some cap) (hspent : spent ≤ l.task.failuresOf c)
    (hle : spent ≤ cap) (history : List (Instant × Deed)) :
    spent + l.retries history c ≤ cap := by
  induction history generalizing l spent with
  | nil => exact hle
  | cons e rest ih =>
    obtain ⟨now, deed⟩ := e
    have hsteps := steps_step l now deed
    have hcons : l.retries ((now, deed) :: rest) c =
        (l.records now deed).toList.countP (·.retries c) + (l.step now deed).retries rest c :=
      List.countP_append
    have hstill : spent + (l.step now deed).retries rest c ≤ cap :=
      ih (h.steps hsteps) (Nat.le_trans hspent (failuresOf_steps hsteps c)) hle
    rw [hcons]
    cases hd : l.records now deed with
    | none => simpa using hstill
    | some decision =>
      cases hr : decision.retries c with
      | false => simpa [hr] using hstill
      | true =>
        obtain ⟨hlt, hsucc, -⟩ := h.retried hd hr
        have hlt := hlt cap hcap
        have hmore : spent + 1 + (l.step now deed).retries rest c ≤ cap :=
          ih (h.steps hsteps) (by omega) (by omega)
        simp only [Option.toList_some, List.countP_singleton, hr, if_true]
        omega

/-! ## Where a failure leads -/

/-- A failed task stays as it is, and no attempt of it is opened, until it is reopened. -/
theorem Steps.failed (hs : Steps now l deed m) (hf : l.task.status = .failed)
    (hdeed : deed ≠ .operate .reopen) : m.task.status = .failed ∧ m.opened = l.opened := by
  cases hs with
  | refused | judged => exact ⟨hf, rfl⟩
  | moved _ _ hm =>
    cases hm with
    | late => exact ⟨hf, List.append_nil _⟩
    | reopen => exact absurd rfl hdeed
    | claim _ hc => exact nomatch hf.symm.trans (Task.pending_of_isClaimable hc)
    | touch _ hheld => rw [hf] at hheld; cases hheld
    | start _ hs | complete _ hs | retry _ _ _ hs | fail _ hs | escalate _ hs | resume _ hs
    | dismiss _ hs | cancel hs | release hs | requeue hs | abandon hs | expire hs =>
      exact nomatch hf.symm.trans hs

theorem run_failed (hf : l.task.status = .failed) {later : List (Instant × Deed)}
    (hlater : ∀ e ∈ later, e.2 ≠ .operate .reopen) :
    (l.run later).task.status = .failed ∧ (l.run later).opened = l.opened := by
  induction later generalizing l with
  | nil => exact ⟨hf, rfl⟩
  | cons e rest ih =>
    obtain ⟨hf', hopened⟩ := (steps_step l e.1 e.2).failed hf (hlater e List.mem_cons_self)
    obtain ⟨hrest, hsame⟩ := ih hf' fun e he => hlater e (List.mem_cons_of_mem _ he)
    exact ⟨hrest, hsame.trans hopened⟩

/-- Where a deed leads a task, by the category of the failure that it puts on record. -/
structure Routed (l : Life) (now : Instant) (deed : Deed) : Prop where
  /-- What nobody but the outside can mend fails the task at once, and it is not started again
  before it is reopened. -/
  hopeless : ∀ decision r, l.records now deed = some decision → decision.reflection? = some r →
    r.category = .quotaExceeded ∨ r.category = .envOrSecrets →
    (l.step now deed).task.status = .failed ∧ ∀ later : List (Instant × Deed),
      (∀ e ∈ later, e.2 ≠ .operate .reopen) →
      ((l.step now deed).run later).task.status = .failed ∧
        ((l.step now deed).run later).opened = (l.step now deed).opened
  /-- A task comes to wait for a decision only by a success that cannot be trusted, or by a generic
  failure when its retry is used up or its attempts are. -/
  puzzling : l.task.status ≠ .needsDecision → (l.step now deed).task.status = .needsDecision →
    (l.step now deed).task.lastFailureCategory = some .generic ∧
    ∃ policy : RetryPolicy, ∃ outcome at',
      l.records now deed = some (policy.decide l.task outcome at') ∧
      (outcome.isAmbiguous = true ∨
        outcome.success = false ∧ RetryPolicy.categoryOf outcome = .generic ∧
          (1 ≤ l.task.failuresOf .generic ∨ l.task.maxAttempts ≤ l.task.attemptCount))
  /-- A retry leaves an attempt. -/
  retried : ∀ r delay, l.records now deed = some (.retry r delay) →
    (l.step now deed).task.attemptCount < (l.step now deed).task.maxAttempts

theorem Traced.hopeless (h : Traced l) (hd : l.records now deed = some decision) {r : Reflection}
    (hr : decision.reflection? = some r) (hc : r.category.rule.retryable = false) :
    (l.step now deed).task.status = .failed := by
  obtain ⟨⟨policy, outcome, at', rfl⟩, hm, hrunning⟩ := h.recorded hd
  have hdecides := policy.decides_decide l.task outcome at'
  generalize policy.decide l.task outcome at' = decision at hdecides hm hr
  generalize (l.step now deed).task = u at hm ⊢
  cases hdecides with
  | hopeless | exhausted =>
    cases hm with
    | late _ _ hlate => exact absurd ⟨hrunning, rfl⟩ hlate
    | fail => rfl
  | retried _ hretryable => cases hr; cases hc.symm.trans hretryable
  | ambiguous => cases hr; cases hc
  | puzzling _ hgeneric =>
    cases hr
    rw [RetryPolicy.reflectionOn, hgeneric] at hc
    cases hc
  | succeeded => cases hr

theorem Traced.puzzling (h : Traced l) (hs : l.task.status ≠ .needsDecision)
    (hm : (l.step now deed).task.status = .needsDecision) :
    (l.step now deed).task.lastFailureCategory = some .generic ∧
    ∃ policy : RetryPolicy, ∃ outcome at',
      l.records now deed = some (policy.decide l.task outcome at') ∧
      (outcome.isAmbiguous = true ∨
        outcome.success = false ∧ RetryPolicy.categoryOf outcome = .generic ∧
          (1 ≤ l.task.failuresOf .generic ∨ l.task.maxAttempts ≤ l.task.attemptCount)) := by
  have hsteps := steps_step l now deed
  generalize l.step now deed = m at hsteps hm
  cases hsteps with
  | refused | judged => exact absurd hm hs
  | moved hb ha hmoves =>
    cases hmoves with
    | late | touch => exact absurd hm hs
    | cancel hp => exact nomatch hp.symm.trans hm
    | escalate r hr =>
      have hd : l.records now (.operate (.settle l.task.attemptCount (.escalate r))) =
          some (.escalate r) := records_settle hb ha hr
      obtain ⟨policy, outcome, at', hdecide⟩ := h.decision hr hb
      have hdecides := policy.decides_decide l.task outcome at'
      rw [← hdecide] at hdecides
      rw [hd]
      cases hdecides with
      | ambiguous hambiguous =>
        exact ⟨rfl, policy, outcome, at', by rw [← hdecide], .inl hambiguous⟩
      | puzzling hfailed hc hx =>
        refine ⟨by rw [← hc]; rfl, policy, outcome, at', by rw [← hdecide], .inr ⟨hfailed, hc, ?_⟩⟩
        simpa [RetryPolicy.isExhausted, FailureCategory.rule] using hx
    | _ => cases hm

theorem Traced.routed (h : Traced l) (now : Instant) (deed : Deed) : l.Routed now deed where
  hopeless decision r hd hr hc := by
    have hf : (l.step now deed).task.status = .failed :=
      h.hopeless hd hr (by rcases hc with hc | hc <;> rw [hc] <;> rfl)
    exact ⟨hf, fun later hlater => run_failed hf hlater⟩
  puzzling := h.puzzling
  retried r delay hd := (h.retried hd (c := r.category) (by simp [Decision.retries])).2.2

/-- **The retries of a category are capped over the whole life of a task**, however often it is
reopened, resolved or taken from its worker, and whatever the policies are: a failed test and a
generic failure are retried once, an exhausted quota and a missing secret never. Every failure leads
where its category says. -/
theorem retries_capped (id : TaskId) (new : NewTask) (asked : UInt32) (born : Instant)
    (history : List (Instant × Deed)) :
    let l := begin id new asked born
    l.retries history .testOrLintFailure ≤ 1 ∧ l.retries history .generic ≤ 1 ∧
    l.retries history .quotaExceeded = 0 ∧ l.retries history .envOrSecrets = 0 ∧
    ∀ now deed, (l.run history).Routed now deed := by
  intro l
  have ht : Traced l := traced_begin id new asked born
  have hcap : ∀ {c : FailureCategory} {cap : Nat}, c.rule.maxRetries = some cap →
      l.retries history c ≤ cap := by
    intro c cap hcap
    have hle := ht.retries_le hcap (Nat.zero_le _) (Nat.zero_le _) history
    rwa [Nat.zero_add] at hle
  exact ⟨hcap rfl, hcap rfl, Nat.le_zero.mp (hcap rfl), Nat.le_zero.mp (hcap rfl),
    (run_keeps ht Traced.steps history).routed⟩

end Life

end TaskPipeline
