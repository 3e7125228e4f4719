import TaskPipeline.Task.Transition

/-!
# Operations on a task, and all they can do

An operation is data: what is asked of a task, with the arguments. `Task.apply` carries it out,
and `Task.Moves` lists every way in which one can succeed, with the guard it passed and the task
it leaves. `moves_of_apply` is the only place that opens the transitions; what holds of every
operation is a case analysis of `Moves`.
-/

namespace TaskPipeline

/-- One operation on a task, with what it is given. -/
inductive Operation where
  | claim (worker : WorkerId)
  | start (worker : WorkerId)
  | touch (worker : WorkerId)
  | settle (attempt : UInt32) (decision : Decision)
  | resolve (resolution : Resolution) (output : Option String)
  | reopen
  | cancel
  | reclaim
  | expire

namespace Task

/-- The task after an operation, or why there is none. -/
def apply (t : Task) (op : Operation) (now : Instant) : Except Fault Task :=
  match op with
  | .claim worker => t.claim worker now
  | .start worker => t.start worker now
  | .touch worker => t.touch worker now
  | .settle attempt decision => (t.settle attempt decision now).map (·.2)
  | .resolve resolution output => t.resolve resolution output now
  | .reopen => t.reopen now
  | .cancel => t.cancel now
  | .reclaim => (t.reclaim now).map (·.2)
  | .expire => t.expire now

theorem pending_of_isClaimable {t : Task} {now : Instant} (h : t.isClaimable now = true) :
    t.status = .pending := by
  simp only [isClaimable, Bool.and_eq_true, decide_eq_true_eq] at h
  exact h.1.1

/-- `Moves now t op u`: the operation succeeds on `t` and leaves `u`. -/
inductive Moves (now : Instant) (t : Task) : Operation → Task → Prop where
  | claim (worker : WorkerId) : t.isClaimable now = true →
      Moves now t (.claim worker)
        { t with status := .claimed, claimedBy := some worker, updatedAt := now }
  | start (worker : WorkerId) : t.status = .claimed → t.claimedBy = some worker →
      t.attemptCount.toNat + 1 < UInt32.size →
      Moves now t (.start worker)
        { t with
          status := .running, attemptCount := t.attemptCount + 1, nextAttemptAt := none,
          updatedAt := now }
  | touch (worker : WorkerId) : t.status.isHeld = true → t.claimedBy = some worker →
      Moves now t (.touch worker) { t with updatedAt := now }
  /-- The attempt is not the one that runs. -/
  | late (attempt : UInt32) (decision : Decision) :
      ¬(t.status = .running ∧ t.attemptCount = attempt) →
      Moves now t (.settle attempt decision) t
  | complete (output : String) : t.status = .running →
      Moves now t (.settle t.attemptCount (.complete output))
        { t with
          output := some output, lastFailureCategory := none, status := .completed,
          claimedBy := none, updatedAt := now }
  | retry (r : Reflection) (delay : Int64) (next : Option Instant) : t.status = .running →
      delayed now delay = .ok next →
      Moves now t (.settle t.attemptCount (.retry r delay))
        { t.reflect r with
          nextAttemptAt := next, status := .pending, claimedBy := none, updatedAt := now }
  | fail (r : Reflection) : t.status = .running →
      Moves now t (.settle t.attemptCount (.fail r))
        { t.reflect r with status := .failed, claimedBy := none, updatedAt := now }
  | escalate (r : Reflection) : t.status = .running →
      Moves now t (.settle t.attemptCount (.escalate r))
        { t.reflect r with status := .needsDecision, claimedBy := none, updatedAt := now }
  | resume (output : Option String) : t.status = .needsDecision →
      t.attemptCount.toNat + 1 < UInt32.size →
      Moves now t (.resolve .pending output)
        { t with
          status := .pending, nextAttemptAt := none,
          maxAttempts := max t.maxAttempts (t.attemptCount + 1), output := output <|> t.output,
          updatedAt := now }
  | dismiss (output : Option String) : t.status = .needsDecision →
      Moves now t (.resolve .failed output)
        { t with status := .failed, output := output <|> t.output, updatedAt := now }
  | reopen : t.status = .failed → t.attemptCount.toNat + 1 < UInt32.size →
      Moves now t .reopen
        { t with
          status := .pending, nextAttemptAt := none,
          maxAttempts := max t.maxAttempts (t.attemptCount + 1), cancelled := false,
          updatedAt := now }
  | cancel : t.status = .pending → t.cancelled = false →
      Moves now t .cancel { t with cancelled := true, updatedAt := now }
  /-- No attempt was open. -/
  | release : t.status = .claimed →
      Moves now t .reclaim { t with status := .pending, claimedBy := none, updatedAt := now }
  | requeue : t.status = .running → t.attemptCount ≤ t.maxAttempts →
      Moves now t .reclaim
        { t.reflect (t.lostAttempt now) with
          status := .pending, claimedBy := none, updatedAt := now }
  | abandon : t.status = .running → t.maxAttempts < t.attemptCount →
      Moves now t .reclaim
        { t.reflect (t.lostAttempt now) with
          status := .failed, claimedBy := none, updatedAt := now }
  | expire : t.status = .needsDecision →
      Moves now t .expire { t with status := .failed, updatedAt := now }

/-! ## Counts -/

theorem toNat_succ {n : UInt32} (h : n.toNat + 1 < UInt32.size) : (n + 1).toNat = n.toNat + 1 := by
  rw [UInt32.toNat_add]; exact Nat.mod_eq_of_lt h

theorem toNat_max (m n : UInt32) : (max m n).toNat = max m.toNat n.toNat := by
  rw [show max m n = if m ≤ n then n else m from rfl]
  split
  · next h => rw [Nat.max_eq_right (UInt32.le_iff_toNat_le.mp h)]
  · next h => rw [Nat.max_eq_left (Nat.le_of_not_le fun hn => h (UInt32.le_iff_toNat_le.mpr hn))]

/-! ## Each transition -/

variable {t u : Task} {now : Instant}

theorem bind_eq_ok {ε α β : Type} {x : Except ε α} {f : α → Except ε β} {b : β} :
    x >>= f = .ok b ↔ ∃ a, x = .ok a ∧ f a = .ok b := by
  cases x with
  | error e => exact ⟨fun h => (nomatch h), fun ⟨_, h, _⟩ => (nomatch h)⟩
  | ok a => exact ⟨fun h => ⟨a, rfl, h⟩, fun ⟨_, h, hf⟩ => by cases h; exact hf⟩

theorem map_eq_ok {ε α β : Type} {x : Except ε α} {f : α → β} {b : β} :
    x.map f = .ok b ↔ ∃ a, x = .ok a ∧ f a = b := by
  cases x with
  | error e => exact ⟨fun h => (nomatch h), fun ⟨_, h, _⟩ => (nomatch h)⟩
  | ok a => simp [Except.map]

theorem ensureHolder_eq_ok {worker : WorkerId} {x : Unit} :
    t.ensureHolder worker = .ok x ↔ t.claimedBy = some worker := by
  unfold ensureHolder; split <;> simp_all

theorem nextAttempt_eq_ok {n : UInt32} :
    t.nextAttempt = .ok n ↔ t.attemptCount.toNat + 1 < UInt32.size ∧ n = t.attemptCount + 1 := by
  unfold nextAttempt
  split
  · next hlt => exact ⟨fun h => by cases h; exact ⟨hlt, rfl⟩, fun h => by rw [h.2]⟩
  · next hlt => exact ⟨fun h => (nomatch h), fun h => absurd h.1 hlt⟩

theorem released_eq_ok :
    t.released = .ok u ↔ t.attemptCount.toNat + 1 < UInt32.size ∧
      u = { t with
        status := .pending, nextAttemptAt := none,
        maxAttempts := max t.maxAttempts (t.attemptCount + 1) } := by
  unfold released grantAttempt
  simp only [bind_eq_ok, nextAttempt_eq_ok]
  constructor
  · rintro ⟨_, ⟨hlt, rfl⟩, h⟩; cases h; exact ⟨hlt, rfl⟩
  · rintro ⟨hlt, rfl⟩; exact ⟨_, ⟨hlt, rfl⟩, rfl⟩

/-- A decision about an attempt that does not run is ignored. -/
theorem settle_late {attempt : UInt32} {decision : Decision}
    (h : ¬(t.status = .running ∧ t.attemptCount = attempt)) :
    t.settle attempt decision now = .ok (.duplicate, t) := by
  rw [settle, if_neg h]

theorem settle_running {attempt : UInt32} {decision : Decision}
    (h : t.status = .running ∧ t.attemptCount = attempt) :
    t.settle attempt decision now = (t.noted decision now).map fun v =>
      (.transitioned decision.target,
        { v with status := decision.target, claimedBy := none, updatedAt := now }) := by
  rw [settle, if_pos h]
  cases t.noted decision now <;> rfl

theorem settle_eq_ok {attempt : UInt32} {decision : Decision} {a : Applied}
    (h : t.settle attempt decision now = .ok (a, u)) :
    Moves now t (.settle attempt decision) u ∧
      (a = .duplicate ∧ ¬(t.status = .running ∧ t.attemptCount = attempt) ∨
        a = .transitioned decision.target ∧ t.status = .running ∧ t.attemptCount = attempt) := by
  by_cases hr : t.status = .running ∧ t.attemptCount = attempt
  · rw [settle_running hr, map_eq_ok] at h
    obtain ⟨v, hv, h⟩ := h
    cases h
    obtain ⟨hr, rfl⟩ := hr
    refine ⟨?_, .inr ⟨rfl, hr, rfl⟩⟩
    cases decision with
    | complete output => cases hv; exact .complete output hr
    | retry r delay =>
      simp only [noted, bind_eq_ok] at hv
      obtain ⟨next, hn, hv⟩ := hv
      cases hv
      exact .retry r delay next hr hn
    | fail r => cases hv; exact .fail r hr
    | escalate r => cases hv; exact .escalate r hr
  · rw [settle_late hr] at h
    cases h
    exact ⟨.late attempt decision hr, .inl ⟨rfl, hr⟩⟩

theorem reclaim_eq_ok {a : Reclaimed} (h : t.reclaim now = .ok (a, u)) :
    Moves now t .reclaim u := by
  unfold reclaim at h
  split at h
  · next hs => cases h; exact .release hs
  · next hs =>
    dsimp only at h
    split at h
    · next hlt => cases h; exact .abandon hs hlt
    · next hle => cases h; exact .requeue hs (UInt32.not_lt.mp hle)
  · cases h

/-! ## All of them -/

/-- **An operation that succeeds does one of the things that `Moves` lists.** -/
theorem moves_of_apply {op : Operation} (h : t.apply op now = .ok u) : Moves now t op u := by
  cases op with
  | claim worker =>
    simp only [apply, Task.claim] at h
    split at h
    · next hc => cases h; exact .claim worker hc
    · cases h
  | start worker =>
    simp only [apply, Task.start] at h
    split at h
    · next hs =>
      simp only [bind_eq_ok, ensureHolder_eq_ok, nextAttempt_eq_ok] at h
      obtain ⟨_, hw, _, ⟨hlt, rfl⟩, h⟩ := h
      cases h
      exact .start worker hs hw hlt
    · cases h
  | touch worker =>
    simp only [apply, Task.touch] at h
    split at h
    · next hs =>
      simp only [bind_eq_ok, ensureHolder_eq_ok] at h
      obtain ⟨_, hw, h⟩ := h
      cases h
      exact .touch worker hs hw
    · cases h
  | settle attempt decision =>
    obtain ⟨⟨a, v⟩, hv, rfl⟩ := map_eq_ok.mp h
    exact (settle_eq_ok hv).1
  | resolve resolution output =>
    simp only [apply, Task.resolve] at h
    split at h
    · next hs =>
      cases resolution with
      | pending =>
        obtain ⟨v, hv, h⟩ := bind_eq_ok.mp h
        cases h
        obtain ⟨hlt, rfl⟩ := released_eq_ok.mp hv
        exact .resume output hs hlt
      | failed => cases h; exact .dismiss output hs
    · cases h
  | reopen =>
    simp only [apply, Task.reopen] at h
    split at h
    · next hs =>
      obtain ⟨v, hv, h⟩ := bind_eq_ok.mp h
      cases h
      obtain ⟨hlt, rfl⟩ := released_eq_ok.mp hv
      exact .reopen hs hlt
    · cases h
  | cancel =>
    simp only [apply, Task.cancel] at h
    split at h
    · next hc => cases h; exact .cancel hc.1 (by simpa using hc.2)
    · cases h
  | reclaim =>
    obtain ⟨⟨a, v⟩, hv, rfl⟩ := map_eq_ok.mp h
    exact reclaim_eq_ok hv
  | expire =>
    simp only [apply, Task.expire] at h
    split at h
    · next hs => cases h; exact .expire hs
    · cases h

end Task

end TaskPipeline
