import TaskPipeline.Proofs.Task.Operation

/-!
# Sums that leave their range

The counts of attempts and the instants are of fixed width, and a sum that leaves its range makes
the operation panic. `Task.Overflows` lists the operations that can come to that, with the guards
which they pass before; `apply_overflow` says that there are no others.
-/

namespace TaskPipeline

namespace Task

/-- `Overflows now t op`: the operation passes its guards on `t` and then panics, at a sum that
leaves its range. -/
inductive Overflows (now : Instant) (t : Task) : Operation → Prop where
  | start (worker : WorkerId) : t.status = .claimed → t.claimedBy = some worker →
      UInt32.size ≤ t.attemptCount.toNat + 1 → Overflows now t (.start worker)
  | retry (r : Reflection) (delay : Int64) : t.status = .running → 0 < delay →
      Int64.maxValue.toInt < now.toInt + delay.toInt →
      Overflows now t (.settle t.attemptCount (.retry r delay))
  | resume (output : Option String) : t.status = .needsDecision →
      UInt32.size ≤ t.attemptCount.toNat + 1 → Overflows now t (.resolve .pending output)
  | reopen : t.status = .failed → UInt32.size ≤ t.attemptCount.toNat + 1 →
      Overflows now t .reopen

variable {t : Task} {now : Instant}

theorem bind_eq_error {ε α β : Type} {x : Except ε α} {f : α → Except ε β} {e : ε} :
    x >>= f = .error e ↔ x = .error e ∨ ∃ a, x = .ok a ∧ f a = .error e := by
  cases x with
  | error e' =>
    constructor
    · intro h; cases h; exact .inl rfl
    · rintro (h | ⟨_, h, _⟩) <;> cases h; rfl
  | ok a =>
    constructor
    · exact fun h => .inr ⟨a, rfl, h⟩
    · rintro (h | ⟨_, h, hf⟩) <;> cases h; exact hf

theorem map_eq_error {ε α β : Type} {x : Except ε α} {f : α → β} {e : ε} :
    x.map f = .error e ↔ x = .error e := by
  cases x <;> simp [Except.map]

/-! ## Each sum -/

theorem ensureHolder_counts {worker : WorkerId} : t.ensureHolder worker ≠ .error .overflow := by
  unfold ensureHolder
  split <;> exact nofun

theorem nextAttempt_overflow :
    t.nextAttempt = .error .overflow ↔ UInt32.size ≤ t.attemptCount.toNat + 1 := by
  unfold nextAttempt
  split
  · next hlt => exact ⟨fun h => (nomatch h), fun h => absurd hlt (Nat.not_lt.mpr h)⟩
  · next hlt => exact ⟨fun _ => Nat.le_of_not_lt hlt, fun _ => rfl⟩

theorem released_overflow :
    t.released = .error .overflow ↔ UInt32.size ≤ t.attemptCount.toNat + 1 := by
  simp only [released, grantAttempt, bind_eq_error, nextAttempt_overflow]
  exact or_iff_left fun ⟨_, _, h⟩ => nomatch h

theorem delayed_overflow {delay : Int64} :
    delayed now delay = .error .overflow ↔
      0 < delay ∧ Int64.maxValue.toInt < now.toInt + delay.toInt := by
  unfold delayed
  split
  · next hle => exact ⟨fun h => (nomatch h), fun h => absurd hle (Int64.not_le.mpr h.1)⟩
  · next hpos =>
    split
    · next hfits => exact ⟨fun h => (nomatch h), fun h => absurd hfits (Int.not_le.mpr h.2)⟩
    · next hfits => exact ⟨fun _ => ⟨Int64.not_le.mp hpos, Int.not_le.mp hfits⟩, fun _ => rfl⟩

theorem noted_overflow {decision : Decision} :
    t.noted decision now = .error .overflow ↔
      ∃ r delay, decision = .retry r delay ∧ 0 < delay ∧
        Int64.maxValue.toInt < now.toInt + delay.toInt := by
  cases decision with
  | retry r delay =>
    simp only [noted, bind_eq_error, delayed_overflow]
    constructor
    · rintro (h | ⟨_, _, h⟩)
      · exact ⟨r, delay, rfl, h⟩
      · cases h
    · rintro ⟨_, _, hd, h⟩
      cases hd
      exact .inl h
  | _ =>
    constructor
    · intro h
      cases h
    · rintro ⟨_, _, hd, _⟩
      cases hd

/-! ## Each operation -/

theorem start_overflow {worker : WorkerId} :
    t.start worker now = .error .overflow ↔
      t.status = .claimed ∧ t.claimedBy = some worker ∧
        UInt32.size ≤ t.attemptCount.toNat + 1 := by
  unfold start
  split
  · next hs =>
    constructor
    · intro h
      rcases bind_eq_error.mp h with h | ⟨_, hw, h⟩
      · exact absurd h ensureHolder_counts
      rcases bind_eq_error.mp h with h | ⟨_, _, h⟩
      · exact ⟨hs, ensureHolder_eq_ok.mp hw, nextAttempt_overflow.mp h⟩
      · cases h
    · rintro ⟨_, hw, hsize⟩
      refine bind_eq_error.mpr (.inr ⟨(), ensureHolder_eq_ok.mpr hw, ?_⟩)
      exact bind_eq_error.mpr (.inl (nextAttempt_overflow.mpr hsize))
  · next hs => exact ⟨fun h => (nomatch h), fun h => absurd h.1 hs⟩

theorem touch_counts {worker : WorkerId} : t.touch worker now ≠ .error .overflow := by
  unfold touch
  split
  · intro h
    rcases bind_eq_error.mp h with h | ⟨_, _, h⟩
    · exact ensureHolder_counts h
    · cases h
  · exact nofun

theorem settle_overflow {attempt : UInt32} {decision : Decision} :
    t.settle attempt decision now = .error .overflow ↔
      (t.status = .running ∧ t.attemptCount = attempt) ∧
        ∃ r delay, decision = .retry r delay ∧ 0 < delay ∧
          Int64.maxValue.toInt < now.toInt + delay.toInt := by
  by_cases hr : t.status = .running ∧ t.attemptCount = attempt
  · rw [settle_running hr, map_eq_error, noted_overflow]
    exact (and_iff_right hr).symm
  · rw [settle_late hr]
    exact ⟨fun h => (nomatch h), fun h => absurd h.1 hr⟩

theorem resolve_overflow {resolution : Resolution} {output : Option String} :
    t.resolve resolution output now = .error .overflow ↔
      t.status = .needsDecision ∧ resolution = .pending ∧
        UInt32.size ≤ t.attemptCount.toNat + 1 := by
  unfold resolve
  split
  · next hs =>
    cases resolution with
    | pending =>
      rw [bind_eq_error, released_overflow, or_iff_left fun ⟨_, _, h⟩ => nomatch h]
      exact ⟨fun hsize => ⟨hs, rfl, hsize⟩, fun h => h.2.2⟩
    | failed => exact ⟨fun h => (nomatch h), fun h => (nomatch h.2.1)⟩
  · next hs => exact ⟨fun h => (nomatch h), fun h => absurd h.1 hs⟩

theorem reopen_overflow :
    t.reopen now = .error .overflow ↔
      t.status = .failed ∧ UInt32.size ≤ t.attemptCount.toNat + 1 := by
  unfold reopen
  split
  · next hs =>
    rw [bind_eq_error, released_overflow, or_iff_left fun ⟨_, _, h⟩ => nomatch h]
    exact (and_iff_right hs).symm
  · next hs => exact ⟨fun h => (nomatch h), fun h => absurd h.1 hs⟩

theorem reclaim_counts : t.reclaim now ≠ .error .overflow := by
  unfold reclaim
  split
  · exact nofun
  · dsimp only
    split <;> exact nofun
  · exact nofun

/-- **An operation panics where `Overflows` says, and nowhere else.** -/
theorem apply_overflow {op : Operation} :
    t.apply op now = .error .overflow ↔ Overflows now t op := by
  constructor
  · intro h
    cases op with
    | claim | cancel | expire =>
      simp only [apply, Task.claim, Task.cancel, Task.expire] at h
      split at h <;> cases h
    | start worker =>
      obtain ⟨hs, hw, hsize⟩ := start_overflow.mp h
      exact .start worker hs hw hsize
    | touch worker => exact absurd h touch_counts
    | settle attempt decision =>
      obtain ⟨⟨hr, rfl⟩, r, delay, rfl, hpos, hover⟩ := settle_overflow.mp (map_eq_error.mp h)
      exact .retry r delay hr hpos hover
    | resolve resolution output =>
      obtain ⟨hs, rfl, hsize⟩ := resolve_overflow.mp h
      exact .resume output hs hsize
    | reopen =>
      obtain ⟨hs, hsize⟩ := reopen_overflow.mp h
      exact .reopen hs hsize
    | reclaim => exact absurd (map_eq_error.mp h) reclaim_counts
  · intro h
    cases h with
    | start worker hs hw hsize => exact start_overflow.mpr ⟨hs, hw, hsize⟩
    | retry r delay hr hpos hover =>
      exact map_eq_error.mpr (settle_overflow.mpr ⟨⟨hr, rfl⟩, r, delay, rfl, hpos, hover⟩)
    | resume output hs hsize => exact resolve_overflow.mpr ⟨hs, rfl, hsize⟩
    | reopen hs hsize => exact reopen_overflow.mpr ⟨hs, hsize⟩

end Task

end TaskPipeline
