import TaskPipeline.Proofs.Reaper.Step

/-!
# What a sweep reports

A sweep under way is a `Round`: the steps of the sweep, with decisions from outside between them.
A round tells only about tasks that it has itself moved to failed, about each at most once, and,
unless its expiry fails, about all of them that are still failed in the end (`round_reports`). An
expiry that fails keeps the tasks that were abandoned just before from being reported
(`abandoned_unreported`).
-/

namespace TaskPipeline

/-- A decision from outside. -/
inductive Directive where
  | resolve (id : TaskId) (resolution : Resolution) (output : Option String)
  | reopen (id : TaskId)

def Directive.call : Directive → Call
  | resolve id resolution output => .resolve id resolution output
  | reopen id => .reopen id

/-- What has failed can be put back, and what is pending is not for others to decide. -/
theorem Directive.moves {d : Directive} {id : TaskId} {op : Operation} {now : Instant}
    (hd : d.call.asks = some (id, op)) {t u : Task} (h : t.Moves now op u)
    (ht : t.status = .failed ∨ t.status = .pending) : u.status = .pending := by
  cases d with
  | resolve i resolution output =>
    cases hd
    cases h with
    | resume _ hs _ | dismiss _ hs => simp [hs] at ht
  | reopen i =>
    cases hd
    cases h
    rfl

theorem Directive.asks (d : Directive) : ∃ id op, d.call.asks = some (id, op) ∧
    ∀ worker, op ≠ .claim worker := by
  cases d with
  | resolve id resolution output => exact ⟨id, _, rfl, nofun⟩
  | reopen id => exact ⟨id, _, rfl, nofun⟩

/-- A sweep under way: where it stands, the store, and the notices that it has sent. -/
structure Round where
  sweep : Sweep := .reclaiming
  store : Store
  sent : List Notice := []

inductive RoundEvent where
  /-- The sweep takes its next step. -/
  | step (now : Instant)
  | decide (now : Instant) (directive : Directive)

def RoundEvent.isStep : RoundEvent → Bool
  | step _ => true
  | decide _ _ => false

/-- One event of a round: what it found and what it left. -/
structure RoundMoment where
  before : Round
  event : RoundEvent
  after : Round

namespace Round

def next (p : ReaperPolicy) (r : Round) : RoundEvent → Round
  | .step now =>
    let (sweep, store, sent) := r.sweep.step p now r.store r.sent
    { sweep, store, sent }
  | .decide now directive => { r with store := (r.store.perform now directive.call).2 }

/-- A round after several events. -/
def run (p : ReaperPolicy) (r : Round) (events : List RoundEvent) : Round :=
  events.foldl (next p) r

def trace (p : ReaperPolicy) : Round → List RoundEvent → List RoundMoment
  | _, [] => []
  | r, e :: events => ⟨r, e, r.next p e⟩ :: trace p (r.next p e) events

/-- A step more, which changes nothing once the sweep has ended. -/
theorem sweep_run_succ (p : ReaperPolicy) (now : Instant) (n : Nat) (r : Round) :
    Sweep.run p now (n + 1) r.sweep r.store r.sent =
      let r' := r.next p (.step now)
      Sweep.run p now n r'.sweep r'.store r'.sent :=
  Sweep.run_succ p now n r.sweep r.store r.sent

/-- A sweep that nobody interferes with is a round of steps alone. -/
theorem run_steps (p : ReaperPolicy) (now : Instant) (n : Nat) (r : Round) :
    Sweep.run p now n r.sweep r.store r.sent =
      let r' := r.run p (List.replicate n (.step now))
      (r'.sweep, r'.store, r'.sent) := by
  induction n generalizing r with
  | zero => rfl
  | succ n ih =>
    rw [List.replicate_succ, sweep_run_succ]
    exact ih (r.next p (.step now))

end Round

/-! ## What is reported -/

/-- A task can be read under the id, and it has failed. -/
def Store.Failed (s : Store) (id : TaskId) : Prop :=
  ∃ t, s.task? id = some t ∧ t.status = .failed

instance (s : Store) (id : TaskId) : Decidable (s.Failed id) :=
  decidable_of_iff ((s.task? id).any (·.status = .failed) = true)
    (by simp [Store.Failed, Option.any_eq_true])

/-- The sweep moves the task with the id to failed. -/
def RoundMoment.Fails (m : RoundMoment) (id : TaskId) : Prop :=
  m.event.isStep = true ∧ ¬ m.before.store.Failed id ∧ m.after.store.Failed id

instance (m : RoundMoment) (id : TaskId) : Decidable (m.Fails id) :=
  inferInstanceAs (Decidable (_ ∧ _))

/-- The sweep ends since its expiry fails. -/
def RoundMoment.FailsToExpire (m : RoundMoment) : Prop :=
  ∃ began report e, m.before.sweep = .expiring began report ∧ m.after.sweep = .ended (.error e)

namespace Round

/-- The sweep has moved the task with the id to failed. -/
def Moved (trace : List RoundMoment) (id : TaskId) : Prop := ∃ m ∈ trace, m.Fails id

instance (trace : List RoundMoment) (id : TaskId) : Decidable (Moved trace id) :=
  inferInstanceAs (Decidable (∃ m ∈ trace, m.Fails id))

/-- The expiry of the sweep has failed. -/
def ExpiryFails (trace : List RoundMoment) : Prop := ∃ m ∈ trace, m.FailsToExpire

/-- How many of the notices are about the task with the id. -/
def reportsOn (sent : List Notice) (id : TaskId) : Nat :=
  sent.countP (·.task? = some id)

/-- The notices of a round are about what it has done. -/
structure Reports (trace : List RoundMoment) (r : Round) : Prop where
  failures : ∀ n ∈ r.sent, ∃ id category nextAction, n = .taskFailed id category nextAction ∧
    Moved trace id
  once : ∀ id, reportsOn r.sent id ≤ 1
  all : ∀ result, r.sweep = .ended result → ¬ ExpiryFails trace → ∀ id, Moved trace id →
    r.store.Failed id → reportsOn r.sent id = 1
  none : ExpiryFails trace → r.sent = []

/-! ## The ledger of a round -/

/-- The tasks that a round has moved to failed are those that it has told about and those that are
left to tell about. -/
structure Ledger (trace : List RoundMoment) (store : Store) (sent : List Notice)
    (told left : List TaskId) : Prop where
  keyed : store.Keyed
  nodup : (told ++ left).Nodup
  moved : ∀ id, Moved trace id ↔ id ∈ told ++ left
  /-- They may have been put back since, but they have gone no further. -/
  settled : ∀ id ∈ told ++ left, ∃ t, store.task? id = some t ∧
    (t.status = .failed ∨ t.status = .pending)
  failures : ∀ n ∈ sent, ∃ id category nextAction, n = .taskFailed id category nextAction ∧ id ∈ told
  once : ∀ id, reportsOn sent id ≤ 1
  all : ∀ id ∈ told, store.Failed id → reportsOn sent id = 1

variable {trace : List RoundMoment} {m : RoundMoment} {s s' : Store} {sent : List Notice}
  {told left : List TaskId} {now : Instant}

theorem moved_append {id : TaskId} : Moved (trace ++ [m]) id ↔ Moved trace id ∨ m.Fails id := by
  simp [Moved, or_and_right, exists_or]

theorem expiryFails_append (hm : ¬ m.FailsToExpire) :
    ExpiryFails (trace ++ [m]) ↔ ExpiryFails trace := by
  simp [ExpiryFails, or_and_right, exists_or, hm]

theorem reportsOn_append (xs ys : List Notice) (id : TaskId) :
    reportsOn (xs ++ ys) id = reportsOn xs id + reportsOn ys id := List.countP_append

/-- Nothing has happened yet. -/
theorem Ledger.start (hk : s.Keyed) : Ledger [] s [] [] [] where
  keyed := hk
  nodup := .nil
  moved id := by simp [Moved]
  settled := by simp
  failures := by simp
  once id := Nat.zero_le 1
  all := by simp

/-- A moment that moves no task to failed and at most puts back what has failed. -/
theorem Ledger.still (h : Ledger trace s sent told left) (hids : s'.ids = s.ids)
    (hmoves : ∀ id, ¬ m.Fails id)
    (hkeeps : ∀ id t, s.task? id = some t → t.status = .failed ∨ t.status = .pending →
      ∃ u, s'.task? id = some u ∧ (u.status = .failed ∨ u.status = .pending) ∧
        (u.status = .failed → t.status = .failed)) :
    Ledger (trace ++ [m]) s' sent told left where
  keyed := h.keyed.of_ids hids
  nodup := h.nodup
  moved id := by rw [moved_append, h.moved]; simp [hmoves id]
  settled id hid := by
    obtain ⟨t, ht, hstatus⟩ := h.settled id hid
    obtain ⟨u, hu, hstatus, -⟩ := hkeeps id t ht hstatus
    exact ⟨u, hu, hstatus⟩
  failures := h.failures
  once := h.once
  all id hid hfailed := by
    obtain ⟨t, ht, hstatus⟩ := h.settled id (List.mem_append_left _ hid)
    obtain ⟨u, hu, -, hback⟩ := hkeeps id t ht hstatus
    obtain ⟨v, hv, hvfailed⟩ := hfailed
    cases hu.symm.trans hv
    exact h.all id hid ⟨t, ht, hback hvfailed⟩

/-- A step that leaves all tasks as they are. -/
theorem Ledger.same (h : Ledger trace s sent told left) (hsame : s.Same s')
    (hbefore : m.before.store = s) (hafter : m.after.store = s') :
    Ledger (trace ++ [m]) s' sent told left := by
  refine h.still hsame.ids ?_ ?_
  · rintro id ⟨-, hnot, hfailed⟩
    apply hnot
    simpa only [Store.Failed, hbefore, hafter, hsame.task?] using hfailed
  · intro id t ht hstatus
    exact ⟨t, by rw [hsame.task?]; exact ht, hstatus, fun h => h⟩

/-- A decision from outside. -/
theorem Ledger.decide (h : Ledger trace s sent told left) (d : Directive)
    (hm : m.event = .decide now d) :
    Ledger (trace ++ [m]) (s.perform now d.call).2 sent told left := by
  obtain ⟨id, op, hd, hop⟩ := d.asks
  have hmoves : ∀ i, ¬ m.Fails i := by
    rintro i ⟨hstep, -⟩
    simp [hm, RoundEvent.isStep] at hstep
  have hasked : s.Asked now id op (s.perform now d.call) := Store.asked_perform s hd hop
  rcases hasked.same_or_puts with
    hsame | ⟨t, u, ht, hmoved, huid, hputs⟩
  · rw [hsame]
    exact h.still rfl hmoves fun i t ht hstatus => ⟨t, ht, hstatus, fun h => h⟩
  · refine h.still hputs.ids hmoves fun i v hv hstatus => ?_
    by_cases hi : i = id
    · subst hi
      cases ht.symm.trans hv
      have hpending := Directive.moves hd hmoved hstatus
      exact ⟨u, huid ▸ hputs.self, .inr hpending, fun h => by simp [hpending] at h⟩
    · exact ⟨v, by rw [hputs.other (huid ▸ hi)]; exact hv, hstatus, fun h => h⟩

/-! ## The two sweeps of the store -/

section

variable {α : Type} {select : Task → Bool} {change : Task → Except Fault (α × Task)}
  {reports : List (TaskId × α)} {fails : α → Prop}
  (hselect : ∀ t, select t = true → t.status ≠ .failed ∧ t.status ≠ .pending)
  (hchange : ∀ {t a u}, change t = .ok (a, u) → (u.status = .failed ↔ fails a))
include hselect hchange

/-- A sweep of the store moves those to failed on which it reports so. -/
theorem failed_reaps (h : s.Reaps select change reports s') (id : TaskId) :
    (¬ s.Failed id ∧ s'.Failed id) ↔ ∃ a, (id, a) ∈ reports ∧ fails a := by
  have heach := h.each id
  constructor
  · rintro ⟨hbefore, u, hu, hfailed⟩
    rw [hu] at heach
    cases hv : s.task? id with
    | none => rw [hv] at heach; cases heach
    | some t =>
      rw [hv] at heach
      cases heach with
      | taken _ hc hmem => exact ⟨_, hmem, (hchange hc).mp hfailed⟩
      | spared _ _ => exact absurd ⟨u, hv, hfailed⟩ hbefore
  · rintro ⟨a, hmem, ha⟩
    obtain ⟨t, u, b, ht, hu, hs, hc, hb⟩ := heach.of_mem (List.mem_map_of_mem hmem)
    -- There is one report on each task.
    cases List.inj_on_of_nodup_map h.nodup hmem hb rfl
    refine ⟨?_, u, hu, (hchange hc).mpr ha⟩
    rintro ⟨v, hv, hfailed⟩
    cases ht.symm.trans hv
    exact (hselect _ hs).1 hfailed

/-- The tasks that a sweep of the store has failed are left to tell about. -/
theorem Ledger.reaps (h : Ledger trace s sent [] left) (hreaps : s.Reaps select change reports s')
    {more : List TaskId} (hnodup : more.Nodup)
    (hmore : ∀ id, id ∈ more ↔ ∃ a, (id, a) ∈ reports ∧ fails a) (hstep : m.event.isStep = true)
    (hbefore : m.before.store = s) (hafter : m.after.store = s') :
    Ledger (trace ++ [m]) s' sent [] (left ++ more) := by
  have hfails : ∀ id, m.Fails id ↔ id ∈ more := by
    intro id
    rw [hmore, ← failed_reaps hselect hchange hreaps, RoundMoment.Fails, hbefore, hafter]
    exact and_iff_right hstep
  have hspared : ∀ id ∈ left, ∃ t, s.task? id = some t ∧ s'.task? id = some t ∧
      (t.status = .failed ∨ t.status = .pending) := by
    intro id hid
    obtain ⟨t, ht, hstatus⟩ := h.settled id hid
    have heach := hreaps.each id
    rw [ht] at heach
    generalize s'.task? id = w at heach
    cases heach with
    | taken hs _ _ => exact absurd hstatus (not_or.mpr (hselect t hs))
    | spared _ _ => exact ⟨t, ht, rfl, hstatus⟩
  have htaken : ∀ id ∈ more, ¬ s.Failed id ∧ s'.Failed id := fun id hid =>
    (failed_reaps hselect hchange hreaps id).mpr ((hmore id).mp hid)
  refine ⟨h.keyed.of_ids hreaps.ids, ?_, ?_, ?_, h.failures, h.once, by simp⟩
  · refine h.nodup.append hnodup fun id hid hnew => ?_
    obtain ⟨t, u, a, ht, -, hs, -⟩ := (hreaps.each id).of_mem
      (by obtain ⟨a, ha, -⟩ := (hmore id).mp hnew; exact List.mem_map_of_mem ha)
    obtain ⟨v, hv, -, hstatus⟩ := hspared id hid
    cases ht.symm.trans hv
    exact not_or.mpr (hselect _ hs) hstatus
  · intro id
    rw [moved_append, h.moved, hfails, List.nil_append, List.nil_append, List.mem_append]
  · intro id hid
    rw [List.nil_append] at hid
    rcases List.mem_append.mp hid with hid | hid
    · obtain ⟨t, -, ht, hstatus⟩ := hspared id hid
      exact ⟨t, ht, hstatus⟩
    · obtain ⟨u, hu, hfailed⟩ := (htaken id hid).2
      exact ⟨u, hu, .inl hfailed⟩

end

/-- What reclaiming a task reports tells whether it has failed. -/
theorem failed_reclaim {t u : Task} {a : Reclaimed} (h : t.reclaim now = .ok (a, u)) :
    u.status = .failed ↔ a = .abandoned := by
  unfold Task.reclaim at h
  split at h
  · cases h; simp
  · dsimp only at h
    split at h <;> cases h <;> simp
  · cases h

theorem failed_expire {t u : Task} {a : Unit}
    (h : ((t.expire now).map fun u => ((), u)) = .ok (a, u)) : u.status = .failed ↔ True := by
  unfold Task.expire at h
  split at h <;> cases h
  simp

/-- Only what is held or waits for a decision is swept. -/
theorem stale_unsettled {cutoff : Instant} (t : Task) (h : MemoryStore.isStale cutoff t = true) :
    t.status ≠ .failed ∧ t.status ≠ .pending := by
  constructor <;> intro hs <;> simp [MemoryStore.isStale, hs, TaskStatus.isHeld] at h

theorem overdue_unsettled {cutoff : Instant} (t : Task)
    (h : MemoryStore.isOverdue cutoff t = true) : t.status ≠ .failed ∧ t.status ≠ .pending := by
  constructor <;> intro hs <;> simp [MemoryStore.isOverdue, hs] at h

theorem mem_abandoned (reports : List (TaskId × Reclaimed)) (id : TaskId) :
    id ∈ (SweepReport.ofReclaimed reports).abandoned ↔
      ∃ a, (id, a) ∈ reports ∧ a = .abandoned := by
  simp [SweepReport.ofReclaimed]

/-! ## Telling -/

/-- What is told about a task that has failed or was put back since. -/
theorem noticeOf_settled {id : TaskId} {t : Task} (ht : s.task? id = some t)
    (hstatus : t.status = .failed ∨ t.status = .pending) :
    (∃ category nextAction, s.noticeOf id = [.taskFailed id category nextAction]) ∨
      (s.noticeOf id = [] ∧ ¬ s.Failed id) := by
  have htid : t.id = id := Store.id_of_task? ht
  rcases hstatus with hs | hs
  · exact .inl ⟨t.lastFailureCategory, t.lastReflection.map (·.nextAction),
      by simp only [Store.noticeOf, ht, Option.bind_some, Notice.ofTask?, hs, htid]; rfl⟩
  · refine .inr ⟨by simp only [Store.noticeOf, ht, Option.bind_some, Notice.ofTask?, hs]; rfl, ?_⟩
    rintro ⟨u, hu, hfailed⟩
    cases ht.symm.trans hu
    simp [hs] at hfailed

theorem reportsOn_failure (id i : TaskId) (category : Option FailureCategory)
    (nextAction : Option String) :
    reportsOn [.taskFailed id category nextAction] i = if id = i then 1 else 0 := by
  simp [reportsOn, List.countP_cons, Notice.task?]

/-- Nothing is told about others than those told about. -/
theorem Ledger.untold (h : Ledger trace s sent told left) {id : TaskId} (hid : id ∉ told) :
    reportsOn sent id = 0 := by
  rw [reportsOn, List.countP_eq_zero]
  intro n hn
  obtain ⟨i, category, nextAction, rfl, hi⟩ := h.failures n hn
  have hne : i ≠ id := fun he => hid (he ▸ hi)
  simpa [Notice.task?] using hne

/-- The next task is told about if it is still failed. -/
theorem Ledger.tells {id : TaskId} (h : Ledger trace s sent told (id :: left))
    (hbefore : m.before.store = s) (hafter : m.after.store = s) :
    Ledger (trace ++ [m]) s (sent ++ s.noticeOf id) (told ++ [id]) left := by
  have h := h.same (.refl s) hbefore hafter
  have hsplit : told ++ id :: left = told ++ [id] ++ left := by simp
  have hnew : id ∉ told := fun hid => List.disjoint_of_nodup_append h.nodup hid List.mem_cons_self
  have hnone := h.untold hnew
  obtain ⟨t, ht, hstatus⟩ := h.settled id (by simp)
  have htold : ∀ i ∈ told, i ∈ told ++ [id] := fun i hi => List.mem_append_left _ hi
  rcases noticeOf_settled ht hstatus with ⟨category, nextAction, hnotice⟩ | ⟨hnotice, hnot⟩
  · have hcount : ∀ i, reportsOn (sent ++ s.noticeOf id) i =
        reportsOn sent i + if id = i then 1 else 0 := fun i => by
      rw [reportsOn_append, hnotice, reportsOn_failure]
    refine ⟨h.keyed, hsplit ▸ h.nodup, hsplit ▸ h.moved, hsplit ▸ h.settled, ?_, ?_, ?_⟩
    · intro n hn
      rw [hnotice] at hn
      rcases List.mem_append.mp hn with hn | hn
      · obtain ⟨i, c, a, rfl, hi⟩ := h.failures n hn
        exact ⟨i, c, a, rfl, htold i hi⟩
      · exact ⟨id, category, nextAction, List.mem_singleton.mp hn, by simp⟩
    · intro i
      rw [hcount]
      split
      · next he => exact Nat.le_of_eq (by rw [← he, hnone])
      · exact h.once i
    · intro i hi hfailed
      rw [hcount]
      rcases List.mem_append.mp hi with hi | hi
      · rw [h.all i hi hfailed, if_neg fun he : id = i => hnew (he ▸ hi)]
      · rw [List.mem_singleton.mp hi, hnone, if_pos rfl]
  · rw [hnotice, List.append_nil]
    refine ⟨h.keyed, hsplit ▸ h.nodup, hsplit ▸ h.moved, hsplit ▸ h.settled, ?_, h.once, ?_⟩
    · intro n hn
      obtain ⟨i, c, a, rfl, hi⟩ := h.failures n hn
      exact ⟨i, c, a, rfl, htold i hi⟩
    · intro i hi hfailed
      rcases List.mem_append.mp hi with hi | hi
      · exact h.all i hi hfailed
      · exact absurd (List.mem_singleton.mp hi ▸ hfailed) hnot

/-! ## Rounds -/

/-- Where a round stands with its reports. -/
def Stands (trace : List RoundMoment) (r : Round) : Prop :=
  match r.sweep with
  | .reclaiming => ¬ ExpiryFails trace ∧ Ledger trace r.store r.sent [] []
  | .expiring _ report =>
    ¬ ExpiryFails trace ∧ report.expired = [] ∧ Ledger trace r.store r.sent [] report.abandoned
  | .telling left _ => ¬ ExpiryFails trace ∧ ∃ told, Ledger trace r.store r.sent told left
  | .beating _ => ¬ ExpiryFails trace ∧ ∃ told, Ledger trace r.store r.sent told []
  | .ended _ => (ExpiryFails trace ∧ ∃ left, Ledger trace r.store r.sent [] left) ∨
      (¬ ExpiryFails trace ∧ ∃ told, Ledger trace r.store r.sent told [])

/-- Where the round stands, its ledger is kept: nothing is left to tell once it has ended, or
nothing was told since its expiry failed. -/
theorem Stands.ledger {r : Round} (h : Stands trace r) :
    ∃ told left, Ledger trace r.store r.sent told left ∧ (ExpiryFails trace → told = []) ∧
      ∀ result, r.sweep = .ended result → ¬ ExpiryFails trace → left = [] := by
  obtain ⟨sweep, store, sent⟩ := r
  cases sweep with
  | reclaiming => exact ⟨_, _, h.2, fun _ => rfl, nofun⟩
  | expiring began report => exact ⟨_, _, h.2.2, fun _ => rfl, nofun⟩
  | telling left report | beating report =>
    obtain ⟨hexpiry, told, h⟩ := h
    exact ⟨told, _, h, fun hfails => absurd hfails hexpiry, nofun⟩
  | ended result =>
    obtain ⟨hexpiry, left, h⟩ | ⟨hexpiry, told, h⟩ := h
    · exact ⟨_, left, h, fun _ => rfl, fun _ _ hnot => absurd hexpiry hnot⟩
    · exact ⟨told, _, h, fun hfails => absurd hfails hexpiry, fun _ _ _ => rfl⟩

theorem Stands.keyed {r : Round} (h : Stands trace r) : r.store.Keyed := by
  obtain ⟨told, left, h, -⟩ := h.ledger
  exact h.keyed

/-- A decision from outside leaves the sweep where it stands. -/
theorem Stands.decide {r : Round} (h : Stands trace r) (p : ReaperPolicy) (now : Instant)
    (d : Directive) :
    Stands (trace ++ [⟨r, .decide now d, r.next p (.decide now d)⟩]) (r.next p (.decide now d)) := by
  have hkeeps : ¬ RoundMoment.FailsToExpire ⟨r, .decide now d, r.next p (.decide now d)⟩ := by
    rintro ⟨began, report, e, hbefore, hafter⟩
    have hsweep : (r.next p (.decide now d)).sweep = r.sweep := rfl
    exact nomatch hbefore.symm.trans (hsweep.symm.trans hafter)
  have hexpiry := @expiryFails_append trace _ hkeeps
  obtain ⟨sweep, store, sent⟩ := r
  cases sweep with
  | reclaiming => exact ⟨hexpiry.not.mpr h.1, h.2.decide d rfl⟩
  | expiring began report => exact ⟨hexpiry.not.mpr h.1, h.2.1, h.2.2.decide d rfl⟩
  | telling left report | beating report =>
    obtain ⟨hnot, told, h⟩ := h
    exact ⟨hexpiry.not.mpr hnot, told, h.decide d rfl⟩
  | ended result =>
    obtain ⟨hfails, left, h⟩ | ⟨hnot, told, h⟩ := h
    · exact .inl ⟨hexpiry.mpr hfails, left, h.decide d rfl⟩
    · exact .inr ⟨hexpiry.not.mpr hnot, told, h.decide d rfl⟩

/-- **A step of the sweep tells, or moves to failed and leaves to tell.** -/
theorem Stands.step {r : Round} (h : Stands trace r) (p : ReaperPolicy) (now : Instant) :
    Stands (trace ++ [⟨r, .step now, r.next p (.step now)⟩]) (r.next p (.step now)) := by
  obtain ⟨sweep, store, sent⟩ := r
  obtain ⟨sweep', s', new, hstep, hacts⟩ := Sweep.acts_step h.keyed p now sweep sent
  have hnext : Round.next p { sweep, store, sent } (.step now) =
      { sweep := sweep', store := s', sent := sent ++ new } := by
    simp only [Round.next, hstep]
  rw [hnext]
  have hexpiry : (∀ began report e, sweep = .expiring began report → sweep' ≠ .ended (.error e)) →
      (ExpiryFails (trace ++ [⟨⟨sweep, store, sent⟩, .step now, ⟨sweep', s', sent ++ new⟩⟩]) ↔
        ExpiryFails trace) := by
    intro hgoes
    refine expiryFails_append ?_
    rintro ⟨began, report, e, hbefore, hafter⟩
    exact hgoes began report e hbefore hafter
  cases hacts with
  | reclaimFails e =>
    rw [List.append_nil] at hexpiry ⊢
    exact .inr ⟨(hexpiry (by simp)).not.mpr h.1, [], h.2.same (.refl store) rfl rfl⟩
  | @reclaims reports _ hreaps =>
    rw [List.append_nil] at hexpiry ⊢
    refine ⟨(hexpiry (by simp)).not.mpr h.1, rfl,
      h.2.reaps stale_unsettled failed_reclaim hreaps ?_ ?_ rfl rfl rfl⟩
    · exact (List.filter_sublist.map _).nodup hreaps.nodup
    · exact mem_abandoned reports
  | expiresNone began report hnone =>
    rw [List.append_nil] at hexpiry ⊢
    obtain ⟨hnot, hexpired, h⟩ := h
    rw [SweepReport.failed, hexpired, List.append_nil] at hexpiry ⊢
    exact ⟨(hexpiry (by simp)).not.mpr hnot, [], h.same (.refl store) rfl rfl⟩
  | expiryFails began report e =>
    rw [List.append_nil]
    obtain ⟨-, -, h⟩ := h
    exact .inl ⟨⟨_, List.mem_concat_self, began, report, e, rfl, rfl⟩, _,
      h.same (.refl store) rfl rfl⟩
  | @expires began report _ reports _ httl hreaps =>
    rw [List.append_nil] at hexpiry ⊢
    obtain ⟨hnot, -, h⟩ := h
    refine ⟨(hexpiry (by simp)).not.mpr hnot, [],
      h.reaps overdue_unsettled failed_expire hreaps hreaps.nodup ?_ rfl rfl rfl⟩
    intro id
    simp
  | tells id left report =>
    obtain ⟨hnot, told, h⟩ := h
    exact ⟨(hexpiry (by simp)).not.mpr hnot, told ++ [id], h.tells rfl rfl⟩
  | told report =>
    rw [List.append_nil] at hexpiry ⊢
    obtain ⟨hnot, told, h⟩ := h
    exact ⟨(hexpiry (by simp)).not.mpr hnot, told, h.same (.refl store) rfl rfl⟩
  | beats report hsame =>
    rw [List.append_nil] at hexpiry ⊢
    obtain ⟨hnot, told, h⟩ := h
    exact .inr ⟨(hexpiry (by simp)).not.mpr hnot, told, h.same hsame rfl rfl⟩
  | rests result =>
    rw [List.append_nil] at hexpiry ⊢
    obtain ⟨hfails, left, h⟩ | ⟨hnot, told, h⟩ := h
    · exact .inl ⟨(hexpiry (by simp)).mpr hfails, left, h.same (.refl store) rfl rfl⟩
    · exact .inr ⟨(hexpiry (by simp)).not.mpr hnot, told, h.same (.refl store) rfl rfl⟩

/-- **What every round keeps.** -/
theorem Stands.run {r : Round} (h : Stands trace r) (p : ReaperPolicy) (events : List RoundEvent) :
    Stands (trace ++ r.trace p events) (r.run p events) := by
  induction events generalizing r trace with
  | nil => simpa [Round.trace, Round.run] using h
  | cons e events ih =>
    have hnext : Stands (trace ++ [⟨r, e, r.next p e⟩]) (r.next p e) := by
      cases e with
      | step now => exact h.step p now
      | decide now d => exact h.decide p now d
    simpa [Round.trace, Round.run] using ih hnext

/-- The tasks that a reclaim has abandoned, while the expiry is due. -/
def abandoned (r : Round) : List TaskId :=
  match r.sweep with
  | .expiring _ report => report.abandoned
  | _ => []

theorem Stands.abandoned {r : Round} (h : Stands trace r) {id : TaskId} (hid : id ∈ r.abandoned) :
    Moved trace id := by
  obtain ⟨sweep, store, sent⟩ := r
  cases sweep with
  | expiring began report => exact (h.2.2.moved id).mpr hid
  | _ => cases hid

theorem Stands.start {store : Store} (hk : store.Keyed) : Stands [] { store } :=
  ⟨by simp [ExpiryFails], Ledger.start hk⟩

/-- **A sweep tells about those that it has failed and about nobody else**, whatever is decided
outside meanwhile: about each at most once, and, unless the expiry fails, about all that are still
failed when it ends. If the expiry fails, it tells nothing. -/
theorem round_reports {store : Store} (hk : store.Keyed) (p : ReaperPolicy)
    (events : List RoundEvent) :
    let r : Round := { store }
    Reports (r.trace p events) (r.run p events) := by
  intro r
  obtain ⟨told, left, h, htold, hleft⟩ := ((Stands.start hk).run p events).ledger
  rw [List.nil_append] at h htold hleft
  refine ⟨?_, h.once, ?_, ?_⟩
  · intro n hn
    obtain ⟨id, category, nextAction, rfl, hid⟩ := h.failures n hn
    exact ⟨id, category, nextAction, rfl, (h.moved id).mpr (List.mem_append_left _ hid)⟩
  · intro result hended hexpiry id hmoved hfailed
    rw [h.moved, hleft result hended hexpiry, List.append_nil] at hmoved
    exact h.all id hmoved hfailed
  · intro hexpiry
    refine List.eq_nil_iff_forall_not_mem.mpr fun n hn => ?_
    obtain ⟨id, _, _, _, hid⟩ := h.failures n hn
    simp [htold hexpiry] at hid

/-- A task whose worker has been silent since its last allowed attempt began. -/
def silentTask : Task :=
  { Task.create "a" ⟨.impl, "build", none, none⟩ 1 0 with
    status := .running, attemptCount := 2, claimedBy := some "w" }

/-- A task that has waited for a decision since the beginning. -/
def waitingTask (id : TaskId) : Task :=
  { Task.create id ⟨.impl, "build", none, none⟩ 1 0 with
    status := .needsDecision, attemptCount := 1 }

def impatientPolicy : ReaperPolicy := .ofSettings { staleAfterSecs := 1, decisionTtlSecs := 1 }

/-- One task is abandoned and another expires; a third is resolved in between. -/
theorem round_reports_interrupted :
    let r : Round := { store := .memory { tasks := [silentTask, waitingTask "b", waitingTask "c"] } }
    let events := [.step 5000, .decide 5000 (.resolve "c" .pending none), .step 5000, .step 5000,
      .step 5000, .step 5000, .step 5000]
    let r' := r.run impatientPolicy events
    r.store.Keyed ∧ (r'.sweep matches .ended (.ok _)) = true ∧
      r'.sent.map Notice.task? = [some "a", some "b"] ∧
      Reports (r.trace impatientPolicy events) r' := by
  intro r events r'
  have hk : r.store.Keyed := by decide
  exact ⟨hk, rfl, rfl, round_reports hk impatientPolicy events⟩

/-- **An expiry that fails keeps what was abandoned from being reported**: the overdue task cannot
be read, so the sweep ends before it tells about the one that it has just failed. -/
theorem abandoned_unreported :
    let unreadable := (Row.ofTask (waitingTask "b")).set .retryReflections (.text "x")
    let r : Round := { store := .table { rows := [Row.ofTask silentTask, unreadable] } }
    let events := [.step 5000, .step 5000]
    let r' := r.run impatientPolicy events
    r.store.Keyed ∧ Moved (r.trace impatientPolicy events) "a" ∧
      (r'.sweep matches .ended (.error _)) = true ∧ reportsOn r'.sent "a" = 0 := by
  intro unreadable r events r'
  have hk : r.store.Keyed := by decide
  refine ⟨hk, ?_, by decide +kernel, by decide +kernel⟩
  obtain ⟨m, hm, hfails⟩ := ((Stands.start hk).step impatientPolicy 5000).abandoned
    (show "a" ∈ (r.next impatientPolicy (.step 5000)).abandoned by decide +kernel)
  rw [List.nil_append, List.mem_singleton] at hm
  exact ⟨m, by rw [hm]; exact List.mem_cons_self, hfails⟩

end Round

end TaskPipeline
