import Mathlib.Data.List.Perm.Subperm
import TaskPipeline.Proofs.Reaper.Step
import TaskPipeline.Proofs.Store.Agreement
import TaskPipeline.Proofs.Store.Sorting

/-!
# A sweep takes exactly the stale tasks

On a store that can be read no pass of the reaper fails. A reclaim reports each task that is stale,
once, and leaves the others alone (`Reaps.reclaims`), and so does an expiry with the overdue ones
(`Reaps.expires`), whatever the cutoffs are; an expiry leaves the holder of a task, too, if there is
one (`expired_with_holder`). What the one takes is nothing for the other: it ends up pending or
failed, and nobody is behind with such a task. So the lists of a sweep are the stale and the overdue
tasks and do not overlap, and there is nothing left for a second sweep at the same instant
(`sweep_exact`).
-/

namespace TaskPipeline

/-! ## Sweeps of a table that can be read -/

namespace TableStore

variable {α : Type} {change : Task → Except Fault (α × Task)} {s : TableStore}

/-- A task that is written back leaves the table readable. -/
theorem readable_save {t u : Task} (hk : (Store.table s).Keyed) (hr : (Store.table s).Readable)
    (ht : (Store.table s).task? t.id = some t) (hkeeps : u.id = t.id ∧ u.taskType = t.taskType ∧
      u.direction = t.direction ∧ u.context = t.context ∧ u.createdAt = t.createdAt) :
    (Store.table (s.save u)).Readable := by
  intro r hrow
  obtain ⟨q, hq, rfl⟩ := List.mem_map.mp hrow
  obtain ⟨v, hv⟩ := hr q hq
  by_cases hid : q.id.same (.text u.id) = true
  · -- Ids are not repeated, so the row is the one that the task was read from.
    have hvid : v.id = t.id := by
      rw [← hkeeps.1]
      exact Cell.text.inj ((Row.readText_eq_ok.mp hv.id).symm.trans (Cell.same_text.mp hid))
    have hfound : (Store.table s).task? v.id = some v := task?_of_mem hk hq hv
    rw [hvid, ht] at hfound
    cases hfound
    exact ⟨u, by rw [if_pos hid]; exact hv.save hkeeps⟩
  · exact ⟨v, by rw [if_neg hid]; exact hv⟩

theorem exists_sweepTasks {ts : List Task} (h : ∀ t ∈ ts, ∃ r, change t = .ok r) :
    ∀ s, ∃ swept, sweepTasks change ts s = .ok swept := by
  induction ts with
  | nil => exact fun s => ⟨([], s), rfl⟩
  | cons t ts ih =>
    intro s
    obtain ⟨⟨a, u⟩, hc⟩ := h t List.mem_cons_self
    obtain ⟨⟨reports, s'⟩, hrest⟩ := ih (fun v hv => h v (List.mem_cons_of_mem _ hv)) (s.save u)
    exact ⟨((t.id, a) :: reports, s'), by simp only [sweepTasks, hc, hrest]; rfl⟩

theorem records_sweepTasks {ts : List Task} {swept : List (TaskId × α) × TableStore}
    (h : sweepTasks change ts s = .ok swept) : swept.2.records = s.records := by
  induction ts generalizing s swept with
  | nil => cases h; rfl
  | cons t ts ih =>
    rw [sweepTasks] at h
    split at h
    · cases h
    · obtain ⟨rest, hrest, h⟩ := Task.bind_eq_ok.mp h
      cases h
      -- Saving leaves the records as they are.
      have hkept := ih hrest
      exact hkept

/-- A sweep leaves the records beside the tasks alone. -/
theorem records_sweep (s : TableStore) (statuses : List TaskStatus) (cutoff : Instant)
    (change : Task → Except Fault (α × Task)) :
    (s.sweep statuses cutoff change).2.records = s.records := by
  unfold sweep
  dsimp only
  split
  · rfl
  · split
    · rfl
    · next hswept => exact records_sweepTasks hswept

/-- Sweeping leaves the table readable. -/
theorem readable_sweepTasks {ts : List Task} {s' : TableStore} {reports : List (TaskId × α)}
    (hkeeps : ∀ {t a u}, change t = .ok (a, u) → u.id = t.id ∧ u.taskType = t.taskType ∧
      u.direction = t.direction ∧ u.context = t.context ∧ u.createdAt = t.createdAt)
    (hd : (ts.map (·.id)).Nodup) (hk : (Store.table s).Keyed) (hr : (Store.table s).Readable)
    (hread : ∀ t ∈ ts, (Store.table s).task? t.id = some t)
    (h : sweepTasks change ts s = .ok (reports, s')) : (Store.table s').Readable := by
  induction ts generalizing s reports with
  | nil => cases h; exact hr
  | cons t ts ih =>
    obtain ⟨hnew, hd⟩ := List.nodup_cons.mp hd
    rw [sweepTasks] at h
    cases hc : change t with
    | error e => rw [hc] at h; cases h
    | ok r =>
      obtain ⟨a, u⟩ := r
      rw [hc] at h
      obtain ⟨⟨rest, s₁⟩, hrest, h⟩ := Task.bind_eq_ok.mp h
      cases h
      have ht := hread t List.mem_cons_self
      have hputs := puts_save ht (hkeeps hc)
      have hkeyed : (Store.table (s.save u)).Keyed := hk.of_ids hputs.ids
      have hothers : ∀ v ∈ ts, (Store.table (s.save u)).task? v.id = some v := by
        intro v hv
        have hne : v.id ≠ u.id := fun he =>
          hnew (List.mem_map.mpr ⟨v, hv, he.trans (hkeeps hc).1⟩)
        rw [hputs.other hne]
        exact hread v (List.mem_cons_of_mem _ hv)
      exact ih hd hkeyed (readable_save hk hr ht (hkeeps hc)) hothers hrest

/-- **A sweep of a table that can be read succeeds**, and the table can be read afterwards. -/
theorem sweep_readable {statuses : List TaskStatus} {cutoff : Instant} {select : Task → Bool}
    (hsweep : Sweeps statuses cutoff select change) (hk : (Store.table s).Keyed)
    (hr : (Store.table s).Readable) :
    ∃ reports s', s.sweep statuses cutoff change = (.ok reports, s') ∧
      (Store.table s).Reaps select change reports (.table s') ∧ (Store.table s').Readable ∧
      s'.records = s.records := by
  generalize hp : (fun r : Row => statuses.any (fun x => r.status.same (.text x.name)) &&
    r.updatedAt.before (.integer cutoff)) = p
  have hperm : (oldestFirst (s.rows.filter p)).Perm (s.rows.filter p) := List.mergeSort_perm _ _
  obtain ⟨ts, hts⟩ := exists_tasks fun r (hrow : r ∈ oldestFirst (s.rows.filter p)) =>
    hr r (List.mem_of_mem_filter (hperm.mem_iff.mp hrow))
  have hmem : ∀ t ∈ ts, (Store.table s).task? t.id = some t ∧ select t = true := by
    intro t ht
    obtain ⟨r, hrow, hreads⟩ := exists_of_forall₂ hts ht
    obtain ⟨hin, hpr⟩ := List.mem_filter.mp (hperm.mem_iff.mp hrow)
    refine ⟨task?_of_mem hk hin hreads, ?_⟩
    rw [← hsweep.reads hreads]
    exact (congrFun hp r).trans hpr
  have hd : (ts.map (·.id)).Nodup :=
    nodup_of_reads (hts.imp fun _ _ => Row.toTask_eq_ok.mpr)
      ((hperm.filterMap _).nodup_iff.mpr ((List.filter_sublist.filterMap _).nodup hk))
  have haccepts : ∀ t ∈ ts, ∃ r, change t = .ok r := fun t ht =>
    hsweep.accepts t (hmem t ht).2
  obtain ⟨⟨reports, s'⟩, hswept⟩ := exists_sweepTasks haccepts s
  have hstep : s.sweep statuses cutoff change = (.ok reports, s') := by
    simp only [sweep, hp, readAll_tasks hts, hswept]
  have hreadable := readable_sweepTasks hsweep.keeps hd hk hr (fun t ht => (hmem t ht).1) hswept
  rcases reaps_sweep hk hsweep with ⟨e, herror⟩ | ⟨reports', s'', hok, hreaps⟩
  · cases herror.symm.trans hstep
  · cases hok.symm.trans hstep
    exact ⟨reports, s', hstep, hreaps, hreadable, records_sweepTasks hswept⟩

end TableStore

/-! ## The two passes -/

namespace Store

variable {s : Store}

/-- What a sweep relies on: ids are not repeated, every row can be read as a task, and the marker
can be read if there is one. -/
structure Intact (s : Store) : Prop where
  keyed : s.Keyed
  readable : s.Readable
  marker : ∃ marker, s.readMarker = .ok marker

/-- A pass over a store: what it reports and leaves is what it should, and the store can be read
afterwards as before. -/
structure Passed {α : Type} (s : Store) (select : Task → Bool)
    (change : Task → Except Fault (α × Task)) (reports : List (TaskId × α))
    (s' : Store) : Prop where
  reaps : s.Reaps select change reports s'
  readable : s'.Readable
  marker : s'.readMarker = s.readMarker

theorem readMarker_of_records {t t' : TableStore} (h : t'.records = t.records) :
    (table t').readMarker = (table t).readMarker := by
  show t'.readMarker = t.readMarker
  rw [TableStore.readMarker, TableStore.readRecord, h]
  rfl

theorem reclaimStale_passes (hk : s.Keyed) (hr : s.Readable) (cutoff now : Instant) :
    ∃ reports s', s.reclaimStale cutoff now = (.ok reports, s') ∧
      s.Passed (MemoryStore.isStale cutoff) (·.reclaim now) reports s' := by
  have hsweep := TableStore.sweeps_reclaim cutoff now
  cases s with
  | memory m =>
    exact ⟨_, _, rfl, MemoryStore.reaps_sweep hsweep.accepts (fun h => (hsweep.keeps h).1) hk,
      trivial, rfl⟩
  | table s =>
    obtain ⟨reports, s', hstep, hreaps, hreadable, hrecords⟩ :=
      TableStore.sweep_readable hsweep hk hr
    exact ⟨reports, _, by simp only [reclaimStale, lift, TableStore.reclaimStale, hstep], hreaps,
      hreadable, readMarker_of_records hrecords⟩

theorem expireDecisions_passes (hk : s.Keyed) (hr : s.Readable) (cutoff now : Instant) :
    ∃ reports s', s.expireDecisions cutoff now = (.ok (reports.map (·.1)), s') ∧
      s.Passed (MemoryStore.isOverdue cutoff) (fun t => (t.expire now).map fun u => ((), u))
        reports s' := by
  have hsweep := TableStore.sweeps_expire cutoff now
  cases s with
  | memory m =>
    exact ⟨_, _, rfl, MemoryStore.reaps_sweep hsweep.accepts (fun h => (hsweep.keeps h).1) hk,
      trivial, rfl⟩
  | table s =>
    obtain ⟨reports, s', hstep, hreaps, hreadable, hrecords⟩ :=
      TableStore.sweep_readable hsweep hk hr
    exact ⟨reports, _,
      by simp only [expireDecisions, lift, TableStore.expireDecisions, hstep]; rfl, hreaps,
      hreadable, readMarker_of_records hrecords⟩

end Store

/-! ## What they take -/

/-- Where a task ends up that was taken from its worker. -/
def Reclaimed.status : Reclaimed → TaskStatus
  | .requeued => .pending
  | .abandoned => .failed

namespace Task

/-- A worker holds the task and has not changed it since the cutoff. -/
def IsStale (cutoff : Instant) (t : Task) : Prop :=
  (t.status = .claimed ∨ t.status = .running) ∧ t.updatedAt < cutoff

/-- The task waits for a decision since before the cutoff. -/
def IsOverdue (cutoff : Instant) (t : Task) : Prop :=
  t.status = .needsDecision ∧ t.updatedAt < cutoff

/-- What becomes of a task that is taken from its worker: it is abandoned if it was running and the
attempts that it may have are exceeded. -/
def lostAs (t : Task) : Reclaimed :=
  if t.status = .running ∧ t.maxAttempts < t.attemptCount then .abandoned else .requeued

variable {t : Task} {cutoff : Instant}

theorem isStale_iff : MemoryStore.isStale cutoff t = true ↔ t.IsStale cutoff := by
  simp only [MemoryStore.isStale, IsStale, Bool.and_eq_true, decide_eq_true_eq]
  cases t.status <;> simp [TaskStatus.isHeld]

theorem isOverdue_iff : MemoryStore.isOverdue cutoff t = true ↔ t.IsOverdue cutoff := by
  simp only [MemoryStore.isOverdue, IsOverdue, Bool.and_eq_true, decide_eq_true_eq]

theorem reclaim_stale (h : t.IsStale cutoff) (now : Instant) :
    ∃ u, t.reclaim now = .ok (t.lostAs, u) ∧ u.status = t.lostAs.status ∧ u.claimedBy = none ∧
      u.updatedAt = now := by
  rcases h.1 with hs | hs
  · have hlost : t.lostAs = .requeued := if_neg (by simp [hs])
    rw [hlost]
    exact ⟨_, by simp only [reclaim, hs]; rfl, rfl, rfl, rfl⟩
  · by_cases hlt : t.maxAttempts < t.attemptCount
    · have hlost : t.lostAs = .abandoned := if_pos ⟨hs, hlt⟩
      rw [hlost]
      exact ⟨_, by simp only [reclaim, hs, gt_iff_lt, if_pos hlt]; rfl, rfl, rfl, rfl⟩
    · have hlost : t.lostAs = .requeued := if_neg fun h => hlt h.2
      rw [hlost]
      exact ⟨_, by simp only [reclaim, hs, gt_iff_lt, if_neg hlt]; rfl, rfl, rfl, rfl⟩

end Task

namespace Store

/-- What a reclaim reports and leaves: it is about the stale tasks. -/
structure Reclaims (s : Store) (cutoff now : Instant) (reports : List (TaskId × Reclaimed))
    (s' : Store) : Prop where
  once : (reports.map (·.1)).Nodup
  reported : ∀ id a, (id, a) ∈ reports ↔
    ∃ t, s.task? id = some t ∧ t.IsStale cutoff ∧ a = t.lostAs
  taken : ∀ id t, s.task? id = some t → t.IsStale cutoff →
    ∃ u, s'.task? id = some u ∧ u.status = t.lostAs.status ∧ u.claimedBy = none ∧
      u.updatedAt = now
  spared : ∀ id, (∀ t, s.task? id = some t → ¬ t.IsStale cutoff) → s'.task? id = s.task? id

/-- What an expiry reports and leaves: it is about the overdue tasks. It fails them and changes
nothing else about them, who holds them included. -/
structure Expires (s : Store) (cutoff now : Instant) (ids : List TaskId) (s' : Store) : Prop where
  once : ids.Nodup
  reported : ∀ id, id ∈ ids ↔ ∃ t, s.task? id = some t ∧ t.IsOverdue cutoff
  taken : ∀ id t, s.task? id = some t → t.IsOverdue cutoff →
    s'.task? id = some { t with status := .failed, updatedAt := now }
  spared : ∀ id, (∀ t, s.task? id = some t → ¬ t.IsOverdue cutoff) → s'.task? id = s.task? id

variable {s s' : Store} {cutoff now : Instant}

theorem Reaps.reclaims {reports : List (TaskId × Reclaimed)}
    (h : s.Reaps (MemoryStore.isStale cutoff) (·.reclaim now) reports s') :
    s.Reclaims cutoff now reports s' where
  once := h.nodup
  reported id a := by
    rw [h.mem_reports]
    constructor
    · rintro ⟨t, u, ht, hs, hc⟩
      have hstale := Task.isStale_iff.mp hs
      obtain ⟨v, hv, _⟩ := Task.reclaim_stale hstale now
      cases hc.symm.trans hv
      exact ⟨t, ht, hstale, rfl⟩
    · rintro ⟨t, ht, hstale, rfl⟩
      obtain ⟨u, hc, _⟩ := Task.reclaim_stale hstale now
      exact ⟨t, u, ht, Task.isStale_iff.mpr hstale, hc⟩
  taken id t ht hstale := by
    obtain ⟨_, u, hc, _, hu⟩ := h.taken ht (Task.isStale_iff.mpr hstale)
    obtain ⟨v, hv, hleft⟩ := Task.reclaim_stale hstale now
    cases hc.symm.trans hv
    exact ⟨u, hu, hleft⟩
  spared id hnone := h.spared fun t ht => by
    rw [Bool.eq_false_iff, ne_eq, Task.isStale_iff]
    exact hnone t ht

theorem Reaps.expires {reports : List (TaskId × Unit)}
    (h : s.Reaps (MemoryStore.isOverdue cutoff) (fun t => (t.expire now).map fun u => ((), u))
      reports s') : s.Expires cutoff now (reports.map (·.1)) s' where
  once := h.nodup
  reported id := by
    constructor
    · intro hmem
      obtain ⟨t, _, _, ht, _, hs, _⟩ := (h.each id).of_mem hmem
      exact ⟨t, ht, Task.isOverdue_iff.mp hs⟩
    · rintro ⟨t, ht, hoverdue⟩
      obtain ⟨a, _, _, hmem, _⟩ := h.taken ht (Task.isOverdue_iff.mpr hoverdue)
      exact List.mem_map_of_mem hmem
  taken id t ht hoverdue := by
    obtain ⟨_, u, hc, _, hu⟩ := h.taken ht (Task.isOverdue_iff.mpr hoverdue)
    rw [Task.expire, if_pos hoverdue.1] at hc
    cases hc
    exact hu
  spared id hnone := h.spared fun t ht => by
    rw [Bool.eq_false_iff, ne_eq, Task.isOverdue_iff]
    exact hnone t ht

end Store

/-! ## A whole sweep -/

namespace ReaperPolicy

/-- The pass of a sweep over the tasks that wait for a decision. -/
def expiry (p : ReaperPolicy) (now : Instant) (s : Store) : Answer (List TaskId) × Store :=
  match p.decisionTtl with
  | none => (.ok [], s)
  | some ttl => s.expireDecisions (now - ttl.toInt64) now

/-- The task is overdue for a sweep. -/
def isOverdue (p : ReaperPolicy) (now : Instant) (t : Task) : Bool :=
  p.decisionTtl.any fun ttl => MemoryStore.isOverdue (now - ttl.toInt64) t

theorem isOverdue_iff {p : ReaperPolicy} {now : Instant} {t : Task} :
    p.isOverdue now t = true ↔ ∃ ttl ∈ p.decisionTtl, t.IsOverdue (now - ttl.toInt64) := by
  simp only [isOverdue, Option.any_eq_true, Task.isOverdue_iff, Option.mem_def]

end ReaperPolicy

namespace Sweep

/-- The notices are sent one by one, and the sign of life is the last that a sweep gives. -/
theorem run_telling (p : ReaperPolicy) (now : Instant) (report : SweepReport) (s : Store) :
    ∀ (left : List TaskId) (n : Nat) (notices : List Notice), left.length + 2 ≤ n →
    ∃ sent, run p now n (.telling left report) s notices =
      (.ended ((s.heartbeatMarker now).1.map fun _ => report), (s.heartbeatMarker now).2, sent)
  | [], n + 2, notices, _ => by
    refine ⟨notices, ?_⟩
    rw [run_succ, run_succ, step, step]
    rcases s.heartbeatMarker now with ⟨answer, s'⟩
    cases answer <;> cases n <;> rfl
  | id :: left, n + 1, notices, h => by
    rw [run_succ]
    exact run_telling p now report s left n _ (Nat.le_of_succ_le_succ h)

end Sweep

namespace ReaperPolicy

variable {p : ReaperPolicy} {now : Instant} {s s₁ s₂ : Store}
  {reports : List (TaskId × Reclaimed)} {expired : List TaskId}

/-- A sweep that has done both passes tells of what they failed. -/
theorem run_passed (hreclaim : s.reclaimStale (now - p.staleAfter.toInt64) now = (.ok reports, s₁))
    (hexpire : p.expiry now s₁ = (.ok expired, s₂)) (n : Nat) :
    Sweep.run p now (n + 2) .reclaiming s [] = Sweep.run p now n
      (.telling ((SweepReport.ofReclaimed reports).abandoned ++ expired)
        { SweepReport.ofReclaimed reports with expired := expired }) s₂ [] := by
  rw [Sweep.run_succ, Sweep.run_succ, Sweep.step, hreclaim, Sweep.step]
  rw [expiry] at hexpire
  cases hp : p.decisionTtl with
  | none =>
    rw [hp] at hexpire
    cases hexpire
    rfl
  | some ttl =>
    rw [hp] at hexpire
    dsimp only at hexpire ⊢
    rw [hexpire]
    rfl

/-- A sweep whose second pass fails ends there. -/
theorem run_unexpired {e : StoreError}
    (hreclaim : s.reclaimStale (now - p.staleAfter.toInt64) now = (.ok reports, s₁))
    (hexpire : p.expiry now s₁ = (.error e, s₂)) (n : Nat) :
    Sweep.run p now (n + 2) .reclaiming s [] = Sweep.run p now n (.ended (.error e)) s₂ [] := by
  rw [Sweep.run_succ, Sweep.run_succ, Sweep.step, hreclaim, Sweep.step]
  rw [expiry] at hexpire
  cases hp : p.decisionTtl with
  | none =>
    rw [hp] at hexpire
    cases hexpire
  | some ttl =>
    rw [hp] at hexpire
    dsimp only at hexpire ⊢
    rw [hexpire]

/-- A sweep is a reclaim, an expiry and a sign of life. -/
theorem sweep_eq (hreclaim : s.reclaimStale (now - p.staleAfter.toInt64) now = (.ok reports, s₁))
    (hexpire : p.expiry now s₁ = (.ok expired, s₂))
    (hsize : (SweepReport.ofReclaimed reports).abandoned.length + expired.length ≤ s.size) :
    ∃ sent, p.sweep now s =
      ((s₂.heartbeatMarker now).1.map
        fun _ => { SweepReport.ofReclaimed reports with expired := expired },
        (s₂.heartbeatMarker now).2, sent) := by
  obtain ⟨sent, hsent⟩ := Sweep.run_telling p now
    { SweepReport.ofReclaimed reports with expired := expired } s₂
    ((SweepReport.ofReclaimed reports).abandoned ++ expired) (2 * s.size + 3) []
    (by rw [List.length_append]; omega)
  refine ⟨sent, ?_⟩
  rw [sweep, run_passed hreclaim hexpire (2 * s.size + 3), hsent]

/-- An expiry of a store that can be read succeeds, as it does without a limit. -/
theorem expiry_passes (p : ReaperPolicy) (now : Instant) (hk : s.Keyed) (hr : s.Readable) :
    ∃ reports s', p.expiry now s = (.ok (reports.map (·.1)), s') ∧
      s.Passed (p.isOverdue now) (fun t => (t.expire now).map fun u => ((), u)) reports s' := by
  unfold expiry isOverdue
  cases p.decisionTtl with
  | some ttl => exact Store.expireDecisions_passes hk hr (now - ttl.toInt64) now
  | none =>
    refine ⟨[], s, rfl, ⟨rfl, List.nodup_nil, fun id => ?_⟩, hr, rfl⟩
    exact .spared (by simp) fun _ _ => rfl

end ReaperPolicy

namespace Store

theorem length_ids_le (s : Store) : s.ids.length ≤ s.size := by
  cases s with
  | memory m => exact Nat.le_of_eq (List.length_map _)
  | table s => exact List.length_filterMap_le _ _

/-- A sign of life can be noted in a marker that can be read, and leaves it so. -/
theorem Intact.heartbeat {s : Store} (h : s.Intact) (now : Instant) :
    ∃ s', s.heartbeatMarker now = (.ok (), s') ∧ s.Same s' ∧ s'.Intact := by
  have hsame := same_heartbeatMarker s now
  have hkeyed : (s.heartbeatMarker now).2.Keyed := h.keyed.of_ids hsame.ids
  cases s with
  | memory m => exact ⟨_, rfl, hsame, hkeyed, trivial, _, rfl⟩
  | table s =>
    obtain ⟨marker, hmarker⟩ := h.marker
    have hread : s.readMarker = .ok marker := hmarker
    have hreadable : (table (s.heartbeatMarker now).2).Readable := by
      intro r hr
      rw [TableStore.rows_heartbeatMarker] at hr
      exact h.readable r hr
    have hstep : (table s).heartbeatMarker now = (.ok (), .table (s.heartbeatMarker now).2) := by
      show lift _ _ = _
      rw [TableStore.heartbeatMarker, hread]
      cases marker <;> rfl
    refine ⟨_, hstep, hsame, hkeyed, hreadable, ?_⟩
    show ∃ marker, (s.heartbeatMarker now).2.readMarker = .ok marker
    rw [TableStore.heartbeatMarker, hread]
    cases marker with
    | none => exact ⟨none, hread⟩
    | some marker =>
      refine ⟨some { marker with heartbeatAt := now }, ?_⟩
      refine TableStore.readRecord_toText PipelineMarker.read_toText ?_
      rw [TableStore.lookup_putRecord, if_pos rfl]
      rfl

end Store

/-- Each reclaimed task is in one list. -/
theorem SweepReport.ofReclaimed_perm (reports : List (TaskId × Reclaimed)) :
    ((ofReclaimed reports).requeued ++ (ofReclaimed reports).abandoned).Perm
      (reports.map (·.1)) := by
  have habandoned : reports.filter (fun r => decide (r.2 = .abandoned)) =
      reports.filter fun r => !decide (r.2 = .requeued) :=
    List.filter_congr fun ⟨_, a⟩ _ => by cases a <;> rfl
  rw [ofReclaimed, habandoned, ← List.map_append]
  exact (List.filter_append_perm _ _).map _

/-- The tasks that a sweep has taken from their workers in one of the two ways. -/
def SweepReport.lost (report : SweepReport) : Reclaimed → List TaskId
  | .requeued => report.requeued
  | .abandoned => report.abandoned

theorem SweepReport.mem_lost_ofReclaimed {reports : List (TaskId × Reclaimed)} {id : TaskId}
    {a : Reclaimed} : id ∈ (ofReclaimed reports).lost a ↔ (id, a) ∈ reports := by
  cases a <;> simp [lost, ofReclaimed]

/-- What a whole sweep reports and leaves: it takes the stale tasks from their workers and fails the
overdue ones. -/
structure Store.SweptBy (s : Store) (p : ReaperPolicy) (now : Instant) (report : SweepReport)
    (s' : Store) : Prop where
  once : (report.requeued ++ report.abandoned ++ report.expired).Nodup
  lost : ∀ id a, id ∈ report.lost a ↔
    ∃ t, s.task? id = some t ∧ t.IsStale (now - p.staleAfter.toInt64) ∧ a = t.lostAs
  expired : ∀ id, id ∈ report.expired ↔
    ∃ t, s.task? id = some t ∧ ∃ ttl ∈ p.decisionTtl, t.IsOverdue (now - ttl.toInt64)
  freed : ∀ id t, s.task? id = some t → t.IsStale (now - p.staleAfter.toInt64) →
    ∃ u, s'.task? id = some u ∧ u.status = t.lostAs.status ∧ u.claimedBy = none ∧
      u.updatedAt = now
  failed : ∀ id t, s.task? id = some t → ∀ ttl ∈ p.decisionTtl, t.IsOverdue (now - ttl.toInt64) →
    s'.task? id = some { t with status := .failed, updatedAt := now }
  spared : ∀ id, id ∉ report.requeued ++ report.abandoned ++ report.expired →
    s'.task? id = s.task? id

namespace ReaperPolicy

/-- The two passes of a sweep, the expiry over what the reclaim has left. -/
structure Passes (p : ReaperPolicy) (now : Instant) (s : Store)
    (reports : List (TaskId × Reclaimed)) (expired : List (TaskId × Unit)) (s₁ s₂ : Store) :
    Prop where
  reclaim : s.Passed (MemoryStore.isStale (now - p.staleAfter.toInt64)) (·.reclaim now) reports s₁
  expire : s₁.Passed (p.isOverdue now) (fun t => (t.expire now).map fun u => ((), u)) expired s₂

/-- What a sweep says about its passes. -/
def reportOf (reports : List (TaskId × Reclaimed)) (expired : List (TaskId × Unit)) : SweepReport :=
  { SweepReport.ofReclaimed reports with expired := expired.map (·.1) }

variable {p : ReaperPolicy} {now : Instant} {s s₁ s₂ : Store} {t u : Task}
  {reports : List (TaskId × Reclaimed)} {expired : List (TaskId × Unit)}

theorem isStale_eq_false {cutoff : Instant} (h : t.status.isHeld = false) :
    MemoryStore.isStale cutoff t = false := by
  simp [MemoryStore.isStale, h]

theorem isOverdue_eq_false (h : t.status ≠ .needsDecision) : p.isOverdue now t = false := by
  unfold isOverdue
  cases p.decisionTtl <;> simp [MemoryStore.isOverdue, h]

theorem status_of_isOverdue (h : p.isOverdue now t = true) : t.status = .needsDecision := by
  by_contra hs
  cases h.symm.trans (isOverdue_eq_false hs)

/-- What was taken from its worker is held by nobody and waits for nobody. -/
theorem status_reclaimed {cutoff : Instant} {a : Reclaimed}
    (hs : MemoryStore.isStale cutoff t = true) (hc : t.reclaim now = .ok (a, u)) :
    u.status = .pending ∨ u.status = .failed := by
  obtain ⟨v, hv, hstatus, _⟩ := Task.reclaim_stale (Task.isStale_iff.mp hs) now
  cases hc.symm.trans hv
  rw [hstatus]
  cases t.lostAs
  · exact .inl rfl
  · exact .inr rfl

theorem status_expired {a : Unit} (hc : ((t.expire now).map fun u => ((), u)) = .ok (a, u)) :
    u.status = .failed := by
  obtain ⟨v, hv, hu⟩ := Task.map_eq_ok.mp hc
  cases hu
  unfold Task.expire at hv
  split at hv
  · cases hv; rfl
  · cases hv

namespace Passes

/-- **After a sweep nobody is behind**: what one pass takes is nothing for the other. -/
theorem nobody_behind (h : p.Passes now s reports expired s₁ s₂) (id : TaskId) (t : Task)
    (ht : s₂.task? id = some t) :
    MemoryStore.isStale (now - p.staleAfter.toInt64) t = false ∧ p.isOverdue now t = false := by
  have hfailed : ∀ (t : Task) (a : Unit) (u : Task), p.isOverdue now t = true →
      ((t.expire now).map fun u => ((), u)) = .ok (a, u) → u.status = .failed :=
    fun _ _ _ _ hc => status_expired hc
  have hreclaimed := h.reclaim.reaps.unselected (fun _ _ _ hs => hs) fun t a u hs hc =>
    isStale_eq_false (by rcases status_reclaimed hs hc with hu | hu <;> rw [hu] <;> rfl)
  constructor
  · refine h.expire.reaps.unselected (fun id t ht _ => hreclaimed id t ht) ?_ id t ht
    intro t a u hs hc
    exact isStale_eq_false (by rw [hfailed t a u hs hc]; rfl)
  · refine h.expire.reaps.unselected (fun _ _ _ hs => hs) ?_ id t ht
    intro t a u hs hc
    exact isOverdue_eq_false (by rw [hfailed t a u hs hc]; decide)

/-- **The lists of a sweep are disjoint and without repeats.** -/
theorem nodup (h : p.Passes now s reports expired s₁ s₂) :
    ((reportOf reports expired).requeued ++ (reportOf reports expired).abandoned ++
      (reportOf reports expired).expired).Nodup := by
  have hperm := SweepReport.ofReclaimed_perm reports
  refine List.nodup_append.mpr ⟨hperm.nodup_iff.mpr h.reclaim.reaps.nodup,
    h.expire.reaps.nodup, ?_⟩
  rintro id hid j hexpired rfl
  obtain ⟨t, u, a, _, hu, hs, hc, _⟩ :=
    (h.reclaim.reaps.each id).of_mem (hperm.mem_iff.mp hid)
  obtain ⟨v, _, _, hv, _, hoverdue, _⟩ := (h.expire.reaps.each id).of_mem hexpired
  cases hu.symm.trans hv
  have hwaits := status_of_isOverdue hoverdue
  rcases status_reclaimed hs hc with hu | hu <;> cases hu.symm.trans hwaits

/-- The first pass leaves the overdue tasks and makes no others overdue. -/
theorem overdue_iff (h : p.Passes now s reports expired s₁ s₂) {id : TaskId} :
    s₁.task? id = some t ∧ p.isOverdue now t = true ↔
      s.task? id = some t ∧ p.isOverdue now t = true := by
  have heach := h.reclaim.reaps.each id
  generalize s.task? id = v, s₁.task? id = w at heach
  cases heach with
  | spared => exact Iff.rfl
  | @taken v w _ hs hc _ =>
    constructor
    · rintro ⟨⟨⟩, hoverdue⟩
      have hwaits := status_of_isOverdue hoverdue
      rcases status_reclaimed hs hc with hw | hw <;> cases hw.symm.trans hwaits
    · rintro ⟨⟨⟩, hoverdue⟩
      have hwaits := status_of_isOverdue hoverdue
      cases (isStale_eq_false (by rw [hwaits]; rfl)).symm.trans hs

/-- **A sweep reports and leaves what it should.** -/
theorem swept (h : p.Passes now s reports expired s₁ s₂) {s' : Store} (hsame : s₂.Same s') :
    s.SweptBy p now (reportOf reports expired) s' where
  once := h.nodup
  lost id a := by
    rw [← h.reclaim.reaps.reclaims.reported id a, ← SweepReport.mem_lost_ofReclaimed]
    cases a <;> exact Iff.rfl
  expired id := by
    constructor
    · intro hmem
      obtain ⟨t, _, _, ht, _, hoverdue, _⟩ := (h.expire.reaps.each id).of_mem hmem
      obtain ⟨ht, hoverdue⟩ := h.overdue_iff.mp ⟨ht, hoverdue⟩
      exact ⟨t, ht, isOverdue_iff.mp hoverdue⟩
    · rintro ⟨t, ht, hoverdue⟩
      obtain ⟨ht, hoverdue⟩ := h.overdue_iff.mpr ⟨ht, isOverdue_iff.mpr hoverdue⟩
      obtain ⟨_, _, _, hmem, _⟩ := h.expire.reaps.taken ht hoverdue
      exact List.mem_map_of_mem hmem
  freed id t ht hstale := by
    obtain ⟨u, hu, hleft⟩ := h.reclaim.reaps.reclaims.taken id t ht hstale
    refine ⟨u, ?_, hleft⟩
    have hwaits : u.status ≠ .needsDecision := by rw [hleft.1]; cases t.lostAs <;> decide
    rw [hsame.task?, h.expire.reaps.spared fun v hv => ?_]
    · exact hu
    · cases hu.symm.trans hv
      exact isOverdue_eq_false hwaits
  failed id t ht ttl httl hoverdue := by
    obtain ⟨ht, hselect⟩ := h.overdue_iff.mpr ⟨ht, isOverdue_iff.mpr ⟨ttl, httl, hoverdue⟩⟩
    obtain ⟨_, u, hc, _, hu⟩ := h.expire.reaps.taken ht hselect
    rw [Task.expire, if_pos hoverdue.1] at hc
    cases hc
    rw [hsame.task?, hu]
  spared id hid := by
    obtain ⟨hreclaim, hexpire⟩ := not_or.mp (List.mem_append.not.mp hid)
    have hunreported : id ∉ reports.map (·.1) :=
      (SweepReport.ofReclaimed_perm reports).mem_iff.not.mp hreclaim
    rw [hsame.task?, h.expire.reaps.unreported hexpire, h.reclaim.reaps.unreported hunreported]

/-- The lists are about stored tasks. -/
theorem length_le (h : p.Passes now s reports expired s₁ s₂) :
    (SweepReport.ofReclaimed reports).abandoned.length + (expired.map (·.1)).length ≤ s.size := by
  have hsub : (SweepReport.ofReclaimed reports).abandoned ++ expired.map (·.1) ⊆ s.ids := by
    intro id hid
    rcases List.mem_append.mp hid with hid | hid
    · have hmem := (SweepReport.ofReclaimed_perm reports).mem_iff.mp
        (List.mem_append_right _ hid)
      obtain ⟨t, _, _, ht, _⟩ := (h.reclaim.reaps.each id).of_mem hmem
      exact Store.mem_ids_of_task? ht
    · obtain ⟨t, _, _, ht, _⟩ := (h.expire.reaps.each id).of_mem hid
      rw [← h.reclaim.reaps.ids]
      exact Store.mem_ids_of_task? ht
  have hnodup : ((SweepReport.ofReclaimed reports).abandoned ++ expired.map (·.1)).Nodup := by
    have hall := h.nodup
    rw [List.append_assoc] at hall
    exact (List.nodup_append.mp hall).2.1
  rw [← List.length_append]
  exact Nat.le_trans (List.subperm_of_subset hnodup hsub).length_le s.length_ids_le

end Passes

/-- **A sweep of an intact store succeeds** and leaves it intact. -/
theorem exists_sweep (h : s.Intact) (p : ReaperPolicy) (now : Instant) :
    ∃ reports expired s₁ s₂ s' sent, p.Passes now s reports expired s₁ s₂ ∧ s₂.Same s' ∧
      s'.Intact ∧ p.sweep now s = (.ok (reportOf reports expired), s', sent) := by
  obtain ⟨reports, s₁, hreclaim, hpass₁⟩ :=
    Store.reclaimStale_passes h.keyed h.readable (now - p.staleAfter.toInt64) now
  have hkeyed₁ : s₁.Keyed := h.keyed.of_ids hpass₁.reaps.ids
  obtain ⟨expired, s₂, hexpire, hpass₂⟩ := p.expiry_passes now hkeyed₁ hpass₁.readable
  have hintact₂ : s₂.Intact := by
    refine ⟨hkeyed₁.of_ids hpass₂.reaps.ids, hpass₂.readable, ?_⟩
    rw [hpass₂.marker, hpass₁.marker]
    exact h.marker
  obtain ⟨s', hbeat, hsame, hintact⟩ := hintact₂.heartbeat now
  have hpasses : p.Passes now s reports expired s₁ s₂ := ⟨hpass₁, hpass₂⟩
  obtain ⟨sent, hsweep⟩ := sweep_eq hreclaim hexpire hpasses.length_le
  rw [hbeat] at hsweep
  exact ⟨reports, expired, s₁, s₂, s', sent, hpasses, hsame, hintact, hsweep⟩

/-- Where nobody is behind a sweep reports nothing and changes no task. -/
theorem exists_idle_sweep (h : s.Intact) (p : ReaperPolicy) (now : Instant)
    (hnone : ∀ id t, s.task? id = some t →
      MemoryStore.isStale (now - p.staleAfter.toInt64) t = false ∧ p.isOverdue now t = false) :
    ∃ s' sent, s.Same s' ∧ p.sweep now s = (.ok {}, s', sent) := by
  obtain ⟨reports, expired, s₁, s₂, s', sent, hpasses, hsame, _, hsweep⟩ := exists_sweep h p now
  have hstays : s₁.task? = s.task? := by
    funext id
    exact hpasses.reclaim.reaps.spared fun t ht => (hnone id t ht).1
  have hoverdue : ∀ id t, s₁.task? id = some t → p.isOverdue now t = false := by
    intro id t ht
    rw [hstays] at ht
    exact (hnone id t ht).2
  obtain rfl : reports = [] := hpasses.reclaim.reaps.eq_nil fun id t ht => (hnone id t ht).1
  obtain rfl : expired = [] := hpasses.expire.reaps.eq_nil hoverdue
  refine ⟨s', sent, ⟨?_, ?_⟩, hsweep⟩
  · rw [hsame.ids, hpasses.expire.reaps.ids, hpasses.reclaim.reaps.ids]
  · rw [hsame.task?, ← hstays]
    funext id
    exact hpasses.expire.reaps.spared (hoverdue id)

end ReaperPolicy

/-- **A sweep takes exactly the stale tasks**, on a store of either kind that can be read, whatever
the cutoffs are. A reclaim and an expiry succeed, report each task that they should once and each
as what it has become, and leave the others alone. A whole sweep lists the stale and the overdue
tasks, disjoint and without repeats, and does the same to them, and a second sweep at the same
instant reports nothing and changes no task; these end with a sign of life, for which the marker has
to be readable, too. -/
theorem sweep_exact {s : Store} (hk : s.Keyed) (hr : s.Readable) :
    (∀ cutoff now, ∃ reports s', s.reclaimStale cutoff now = (.ok reports, s') ∧
      s.Reclaims cutoff now reports s') ∧
    (∀ cutoff now, ∃ ids s', s.expireDecisions cutoff now = (.ok ids, s') ∧
      s.Expires cutoff now ids s') ∧
    ((∃ marker, s.readMarker = .ok marker) → ∀ (p : ReaperPolicy) (now : Instant),
      ∃ report s' sent, p.sweep now s = (.ok report, s', sent) ∧
        s.SweptBy p now report s' ∧
        ∃ s'' sent', p.sweep now s' = (.ok {}, s'', sent') ∧ s'.Same s'') := by
  refine ⟨fun cutoff now => ?_, fun cutoff now => ?_, fun hmarker p now => ?_⟩
  · obtain ⟨reports, s', hstep, hpass⟩ := Store.reclaimStale_passes hk hr cutoff now
    exact ⟨reports, s', hstep, hpass.reaps.reclaims⟩
  · obtain ⟨reports, s', hstep, hpass⟩ := Store.expireDecisions_passes hk hr cutoff now
    exact ⟨_, s', hstep, hpass.reaps.expires⟩
  · obtain ⟨reports, expired, s₁, s₂, s', sent, hpasses, hsame, hintact, hsweep⟩ :=
      ReaperPolicy.exists_sweep ⟨hk, hr, hmarker⟩ p now
    have hnone := hpasses.nobody_behind
    rw [← hsame.task?] at hnone
    obtain ⟨s'', sent', hsame', hagain⟩ := ReaperPolicy.exists_idle_sweep hintact p now hnone
    exact ⟨_, s', sent, hsweep, hpasses.swept hsame, s'', sent', hagain, hsame'⟩

/-- A task whose worker fell silent after the last attempt that it might have. -/
def spentTask : Task :=
  { Task.create "a" ⟨.impl, "build", none, none⟩ 1 0 with
    status := .running, claimedBy := some "w", attemptCount := 2 }

/-- A task that waits for a decision. -/
def puzzlingTask : Task :=
  { Task.create "b" ⟨.impl, "build", none, none⟩ 1 0 with status := .needsDecision }

/-- The one is abandoned by the pass that spares the other, and a sweep lists both. -/
theorem sweep_exact_behind :
    let s := Store.table { rows := [spentTask, puzzlingTask].map Row.ofTask }
    (∃ reports s', s.reclaimStale 5 9 = (.ok reports, s') ∧ ("a", .abandoned) ∈ reports ∧
      s'.task? "b" = s.task? "b") ∧
    ∃ report s' sent,
      (ReaperPolicy.mk (.ofSeconds 1) (.ofSeconds 0) (some (.ofSeconds 0))).sweep 9 s =
        (.ok report, s', sent) ∧
      "a" ∈ report.abandoned ∧ "b" ∈ report.expired := by
  intro s
  have hlegible : ∀ t ∈ [spentTask, puzzlingTask], t.reread = .ok t := by
    intro t ht
    obtain rfl | rfl : t = spentTask ∨ t = puzzlingTask := by simpa using ht
    · exact Task.reread_legible fun c hc => nomatch hc
    · exact Task.reread_legible fun c hc => nomatch hc
  have hk : s.Keyed := TableStore.keyed_rows (by decide) []
  have hr : s.Readable := TableStore.readable_rows hlegible []
  have hfound : ∀ t ∈ [spentTask, puzzlingTask], s.task? t.id = some t := fun t ht =>
    TableStore.task?_of_mem hk (List.mem_map_of_mem ht)
      (Row.toTask_eq_ok.mp ((Row.toTask_ofTask t).trans (hlegible t ht)))
  obtain ⟨hreclaim, _, hsweep⟩ := sweep_exact hk hr
  obtain ⟨reports, s', hstep, hreclaims⟩ := hreclaim 5 9
  obtain ⟨report, s'', sent, hstep', hswept, _⟩ := hsweep ⟨none, rfl⟩
    (ReaperPolicy.mk (.ofSeconds 1) (.ofSeconds 0) (some (.ofSeconds 0))) 9
  refine ⟨⟨reports, s', hstep, ?_, ?_⟩, report, s'', sent, hstep', ?_, ?_⟩
  · exact (hreclaims.reported "a" .abandoned).mpr
      ⟨spentTask, hfound spentTask List.mem_cons_self, ⟨.inr rfl, by decide⟩, by decide⟩
  · refine hreclaims.spared "b" fun t ht hstale => ?_
    cases ht.symm.trans (hfound puzzlingTask (List.mem_cons_of_mem _ List.mem_cons_self))
    rcases hstale.1 with hs | hs <;> cases hs
  · exact (hswept.lost "a" .abandoned).mpr
      ⟨spentTask, hfound spentTask List.mem_cons_self, ⟨.inr rfl, by decide⟩, by decide⟩
  · exact (hswept.expired "b").mpr ⟨puzzlingTask,
      hfound puzzlingTask (List.mem_cons_of_mem _ List.mem_cons_self), _, rfl, rfl, by decide⟩

/-- A task that waits for a decision, in the name of a worker. -/
def heldTask : Task :=
  { puzzlingTask with claimedBy := some "w9" }

/-- **An expiry leaves a holder where there is one**: the task is failed, and still in the name of
a worker. -/
theorem expired_with_holder :
    let s := Store.table { rows := [heldTask].map Row.ofTask }
    s.Keyed ∧ s.Readable ∧ (s.expireDecisions 5 9).1 = .ok ["b"] ∧
      ((s.expireDecisions 5 9).2.task? "b").map (fun t => (t.status, t.claimedBy, t.updatedAt)) =
        some (.failed, some "w9", 9) := by
  have hlegible : ∀ t ∈ [heldTask], t.reread = .ok t := by
    intro t ht
    obtain rfl := List.mem_singleton.mp ht
    exact Task.reread_legible fun c hc => nomatch hc
  exact ⟨TableStore.keyed_rows (by decide) [], TableStore.readable_rows hlegible [],
    by decide +kernel, by decide +kernel⟩

end TaskPipeline
