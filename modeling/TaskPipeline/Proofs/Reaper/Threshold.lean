import TaskPipeline.Proofs.Reaper.Stale

/-!
# What a sweep takes, by its thresholds

A whole sweep of a store of any content frees the tasks that are stale, and gives up those that are
overdue, unless it meets a row that it cannot read. Both are antitone: the longer a threshold, the
earlier the cutoff, and the fewer tasks lie before it.
-/

namespace TaskPipeline

/-! ## Thresholds in seconds -/

namespace Span

/-- The milliseconds of so many seconds are a difference of instants. -/
def Counts (n : UInt64) : Prop := (n.toNat * 1000 : Int) ≤ Int64.maxValue.toInt

variable {a b : UInt64}

theorem toInt_ofSeconds (h : Counts a) : (ofSeconds a).toInt64.toInt = a.toNat * 1000 :=
  toInt_toInt64 h

theorem Counts.of_le (hb : Counts b) (hab : a ≤ b) : Counts a := by
  have hle : a.toNat ≤ b.toNat := UInt64.le_iff_toNat_le.mp hab
  unfold Counts at hb ⊢
  omega

theorem toInt64_le (hab : a ≤ b) (hb : Counts b) :
    (ofSeconds a).toInt64 ≤ (ofSeconds b).toInt64 := by
  have hle : a.toNat ≤ b.toNat := UInt64.le_iff_toNat_le.mp hab
  rw [Int64.le_iff_toInt_le, toInt_ofSeconds (hb.of_le hab), toInt_ofSeconds hb]
  omega

/-- The cutoff of a threshold is an instant. -/
def Reaches (n : UInt64) (now : Instant) : Prop :=
  Int64.minValue.toInt ≤ now.toInt - (n.toNat * 1000 : Int)

theorem toInt_cutoff (ha : Counts a) {now : Instant} (h : Reaches a now) :
    (now - (ofSeconds a).toInt64).toInt = now.toInt - a.toNat * 1000 :=
  toInt_before ha h

/-- The longer the threshold, the earlier the cutoff. -/
theorem cutoff_le (hab : a ≤ b) (hb : Counts b) {now : Instant} (h : Reaches b now) :
    now - (ofSeconds b).toInt64 ≤ now - (ofSeconds a).toInt64 := by
  have hle : a.toNat ≤ b.toNat := UInt64.le_iff_toNat_le.mp hab
  have ha : Reaches a now := by
    unfold Reaches at h ⊢
    omega
  rw [Int64.le_iff_toInt_le, toInt_cutoff hb h, toInt_cutoff (hb.of_le hab) ha]
  omega

end Span

/-! ## A whole sweep of a store of any content -/

theorem Store.Same.trans {s s' s'' : Store} (h : s.Same s') (h' : s'.Same s'') : s.Same s'' :=
  ⟨h'.ids.trans h.ids, h'.task?.trans h.task?⟩

namespace Sweep

/-- The passes are over: what is left is to tell. -/
def IsOver : Sweep → Bool
  | .reclaiming | .expiring _ _ => false
  | .telling _ _ | .beating _ | .ended _ => true

theorem run_ended (p : ReaperPolicy) (now : Instant) (n : Nat) (result : Answer SweepReport)
    (s : Store) (notices : List Notice) :
    run p now n (.ended result) s notices = (.ended result, s, notices) := by
  cases n <;> rfl

/-- To tell changes no task. -/
theorem same_run (p : ReaperPolicy) (now : Instant) (n : Nat) {sweep : Sweep}
    (hover : sweep.IsOver = true) {s : Store} (hk : s.Keyed) (notices : List Notice) :
    s.Same (run p now n sweep s notices).2.1 := by
  induction n generalizing sweep s notices with
  | zero => exact .refl s
  | succ n ih =>
    obtain ⟨sweep', s', sent, hstep, hacts⟩ := acts_step hk p now sweep notices
    rw [run_succ, hstep]
    have hsame : s.Same s' ∧ sweep'.IsOver = true := by
      cases hacts with
      | tells | told | rests => exact ⟨.refl s, rfl⟩
      | beats _ hsame => exact ⟨hsame, rfl⟩
      | _ => cases hover
    exact hsame.1.trans (ih hsame.2 (hk.of_ids hsame.1.ids) _)

end Sweep

namespace ReaperPolicy

variable {p : ReaperPolicy} {now : Instant} {s s₁ : Store}

/-- What an expiry fails with. -/
abbrev expireAs (now : Instant) (t : Task) : Except Fault (Unit × Task) :=
  (t.expire now).map fun u => ((), u)

/-- An expiry fails and changes nothing, or fails exactly the overdue tasks. -/
theorem expiry_cases (p : ReaperPolicy) (now : Instant) (hk : s.Keyed) :
    (∃ e, p.expiry now s = (.error e, s)) ∨
    ∃ reports s', p.expiry now s = (.ok (reports.map (·.1)), s') ∧
      s.Reaps (p.isOverdue now) (expireAs now) reports s' := by
  unfold expiry isOverdue
  cases p.decisionTtl with
  | some ttl => exact Store.expireDecisions_cases hk (now - ttl.toInt64) now
  | none => exact .inr ⟨[], s, rfl, rfl, List.nodup_nil, fun id => .spared (by simp) (by simp)⟩

/-- The two passes of a sweep, and how it can fail between them. -/
inductive Sweeps (p : ReaperPolicy) (now : Instant) (s : Store) :
    Answer SweepReport × Store × List Notice → Prop where
  | reclaimFails (e : StoreError) : ¬s.Readable → Sweeps p now s (.error e, s, [])
  | expiryFails (e : StoreError) {reports : List (TaskId × Reclaimed)} {s₁ : Store} :
      ¬s.Readable →
      s.Reaps (MemoryStore.isStale (now - p.staleAfter.toInt64)) (·.reclaim now) reports s₁ →
      Sweeps p now s (.error e, s₁, [])
  | passes {reports : List (TaskId × Reclaimed)} {expired : List (TaskId × Unit)} {s₁ s₂ : Store}
      {swept : Answer SweepReport × Store × List Notice} :
      s.Reaps (MemoryStore.isStale (now - p.staleAfter.toInt64)) (·.reclaim now) reports s₁ →
      s₁.Reaps (p.isOverdue now) (expireAs now) expired s₂ → s₂.Same swept.2.1 →
      Sweeps p now s swept

theorem store_sweep (p : ReaperPolicy) (now : Instant) (s : Store) :
    (p.sweep now s).2.1 = (Sweep.run p now (2 * s.size + 5) .reclaiming s []).2.1 := by
  unfold sweep
  split <;> simp_all

theorem sweep_of_ended {result : Answer SweepReport} {s' : Store} {notices : List Notice}
    (h : Sweep.run p now (2 * s.size + 5) .reclaiming s [] = (.ended result, s', notices)) :
    p.sweep now s = (result, s', notices) := by
  unfold sweep
  rw [h]

/-- **A sweep does one of the things that `Sweeps` lists**, if no id is used twice. -/
theorem sweeps_sweep (hk : s.Keyed) (p : ReaperPolicy) (now : Instant) :
    Sweeps p now s (p.sweep now s) := by
  rcases Store.reclaimStale_cases hk (now - p.staleAfter.toInt64) now with
    ⟨e, hreclaim⟩ | ⟨reports, s₁, hreclaim, hreaps⟩
  · have hunread : ¬s.Readable := fun hr => by
      obtain ⟨_, _, hok, _⟩ := Store.reclaimStale_passes hk hr (now - p.staleAfter.toInt64) now
      cases hreclaim.symm.trans hok
    rw [sweep_of_ended (by
      rw [Sweep.run_succ, Sweep.step, hreclaim]
      exact Sweep.run_ended p now _ (.error e) s [])]
    exact .reclaimFails e hunread
  have hk₁ : s₁.Keyed := hk.of_ids hreaps.ids
  rcases expiry_cases p now hk₁ with ⟨e, hexpire⟩ | ⟨expired, s₂, hexpire, hreaps₂⟩
  · have hunread : ¬s.Readable := fun hr => by
      obtain ⟨_, _, hok, hpassed⟩ :=
        Store.reclaimStale_passes hk hr (now - p.staleAfter.toInt64) now
      cases hreclaim.symm.trans hok
      obtain ⟨_, _, hok₁, _⟩ := p.expiry_passes now hk₁ hpassed.readable
      cases hexpire.symm.trans hok₁
    rw [sweep_of_ended (by
      rw [run_unexpired hreclaim hexpire (2 * s.size + 3)]
      exact Sweep.run_ended p now _ (.error e) s₁ [])]
    exact .expiryFails e hunread hreaps
  · refine .passes hreaps hreaps₂ ?_
    rw [store_sweep, run_passed hreclaim hexpire (2 * s.size + 3)]
    exact Sweep.same_run p now _ rfl (hk₁.of_ids hreaps₂.ids) []

end ReaperPolicy

/-! ## What it takes -/

namespace Store

/-- A task is taken from its worker. -/
def Frees (s s' : Store) (id : TaskId) : Prop :=
  ∃ t u, s.task? id = some t ∧ t.status.isHeld = true ∧
    s'.task? id = some u ∧ u.status.isHeld = false

/-- A task that waited for a decision is failed. -/
def GivesUp (s s' : Store) (id : TaskId) : Prop :=
  ∃ t u, s.task? id = some t ∧ t.status = .needsDecision ∧
    s'.task? id = some u ∧ u.status = .failed

end Store

namespace ReaperPolicy

variable {p : ReaperPolicy} {now : Instant} {s s' : Store} {id : TaskId} {t : Task}
  {swept : Answer SweepReport × Store × List Notice}

/-- What is neither stale nor overdue stays. -/
theorem Sweeps.spares (h : Sweeps p now s swept) (ht : s.task? id = some t)
    (hstale : MemoryStore.isStale (now - p.staleAfter.toInt64) t = false)
    (hoverdue : p.isOverdue now t = false) : swept.2.1.task? id = some t := by
  cases h with
  | reclaimFails => exact ht
  | expiryFails _ _ hreaps =>
    rw [hreaps.spared fun v hv => by rw [ht] at hv; cases hv; exact hstale]
    exact ht
  | passes hreaps hreaps₂ hsame =>
    have hfirst : _ = some t :=
      (hreaps.spared fun v hv => by rw [ht] at hv; cases hv; exact hstale).trans ht
    rw [hsame.task?, hreaps₂.spared fun v hv => by rw [hfirst] at hv; cases hv; exact hoverdue]
    exact hfirst

/-- Only stale tasks are freed. -/
theorem Sweeps.stale (h : Sweeps p now s swept) (hfrees : s.Frees swept.2.1 id) :
    ∃ t, s.task? id = some t ∧ MemoryStore.isStale (now - p.staleAfter.toInt64) t = true := by
  obtain ⟨t, u, ht, hheld, hu, hfree⟩ := hfrees
  refine ⟨t, ht, ?_⟩
  by_contra hstale
  have hwaits : t.status ≠ .needsDecision := fun hs => by rw [hs] at hheld; cases hheld
  rw [h.spares ht (by simpa using hstale) (isOverdue_eq_false hwaits)] at hu
  cases hu
  cases hheld.symm.trans hfree

/-- Every stale task is freed, unless the sweep fails before it does anything. -/
theorem Sweeps.frees (h : Sweeps p now s swept) (ht : s.task? id = some t)
    (hstale : MemoryStore.isStale (now - p.staleAfter.toInt64) t = true) :
    s.Frees swept.2.1 id ∨ ¬s.Readable ∧ ∃ e, swept = (.error e, s, []) := by
  have hheld : t.status.isHeld = true := (Bool.and_eq_true_iff.mp hstale).1
  cases h with
  | reclaimFails e hunread => exact .inr ⟨hunread, e, rfl⟩
  | expiryFails _ _ hreaps =>
    obtain ⟨a, u, hc, _, hu⟩ := hreaps.taken ht hstale
    refine .inl ⟨t, u, ht, hheld, hu, ?_⟩
    rcases status_reclaimed hstale hc with hs | hs <;> rw [hs] <;> rfl
  | passes hreaps hreaps₂ hsame =>
    obtain ⟨a, u, hc, _, hu⟩ := hreaps.taken ht hstale
    have hstatus := status_reclaimed hstale hc
    have hwaits : u.status ≠ .needsDecision := by rcases hstatus with hs | hs <;> rw [hs] <;> decide
    refine .inl ⟨t, u, ht, hheld, ?_, by rcases hstatus with hs | hs <;> rw [hs] <;> rfl⟩
    rw [hsame.task?, hreaps₂.spared fun v hv => by
      rw [hu] at hv; cases hv; exact isOverdue_eq_false hwaits]
    exact hu

/-- Only overdue tasks are given up. -/
theorem Sweeps.overdue (h : Sweeps p now s swept) (hgives : s.GivesUp swept.2.1 id) :
    ∃ t, s.task? id = some t ∧ p.isOverdue now t = true := by
  obtain ⟨t, u, ht, hwaits, hu, hfailed⟩ := hgives
  refine ⟨t, ht, ?_⟩
  by_contra hoverdue
  rw [h.spares ht (isStale_eq_false (by rw [hwaits]; rfl)) (by simpa using hoverdue)] at hu
  cases hu
  cases hwaits.symm.trans hfailed

/-- Every overdue task is given up, unless the sweep fails and gives up none. -/
theorem Sweeps.givesUp (h : Sweeps p now s swept) (ht : s.task? id = some t)
    (hoverdue : p.isOverdue now t = true) :
    s.GivesUp swept.2.1 id ∨ ¬s.Readable ∧ ∃ e, swept.1 = .error e ∧
      ∀ id, ¬s.GivesUp swept.2.1 id := by
  have hwaits := status_of_isOverdue hoverdue
  have hspared : ∀ {reports s₁}, s.Reaps (MemoryStore.isStale (now - p.staleAfter.toInt64))
      (·.reclaim now) reports s₁ → ∀ {id t}, s.task? id = some t → t.status = .needsDecision →
      s₁.task? id = some t := fun hreaps _ t ht hs =>
    (hreaps.spared fun v hv => by
      rw [ht] at hv; cases hv; exact isStale_eq_false (by rw [hs]; rfl)).trans ht
  cases h with
  | reclaimFails e hunread =>
    refine .inr ⟨hunread, e, rfl, ?_⟩
    rintro _ ⟨v, u, hv, hs, hu, hfailed⟩
    cases hv.symm.trans hu
    cases hs.symm.trans hfailed
  | expiryFails e hunread hreaps =>
    refine .inr ⟨hunread, e, rfl, ?_⟩
    rintro _ ⟨v, u, hv, hs, hu, hfailed⟩
    cases (hspared hreaps hv hs).symm.trans hu
    cases hs.symm.trans hfailed
  | passes hreaps hreaps₂ hsame =>
    obtain ⟨a, u, hc, _, hu⟩ := hreaps₂.taken (hspared hreaps ht hwaits) hoverdue
    exact .inl ⟨t, u, ht, hwaits, by rw [hsame.task?]; exact hu, status_expired hc⟩

end ReaperPolicy

end TaskPipeline
