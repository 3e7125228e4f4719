import TaskPipeline.Proofs.Monitor.Ranking
import TaskPipeline.Proofs.Reaper.Threshold
import TaskPipeline.Proofs.Store.Line
import TaskPipeline.Proofs.Store.Replace

/-!
# The alarm and the cure

A monitor looks for stuck tasks in a snapshot, and a sweep has them selected by the store. Both take
the held tasks that were last changed before the same cutoff, so the monitor raises its alarm
exactly where the sweep has something to reclaim, about as many tasks and about the same ones, and
has nothing left to report when the sweep is over (`alarm_agrees`).
-/

namespace TaskPipeline

open Pipeline (readable)

/-! ## Snapshots -/

namespace Store

variable {s : Store} {tasks : List Task} {t : Task}

theorem exists_snapshot (h : s.Readable) : ∃ tasks, s.snapshot = .ok tasks := by
  cases s with
  | memory m => exact ⟨m.tasks, rfl⟩
  | table s =>
    obtain ⟨ts, hts⟩ := TableStore.exists_tasks fun r (hr : r ∈ TableStore.oldestFirst s.rows) =>
      h r (List.mem_mergeSort.mp hr)
    exact ⟨ts, TableStore.readAll_tasks hts⟩

/-- A snapshot is of what can be read, in some order. -/
theorem snapshot_perm (h : s.snapshot = .ok tasks) : tasks.Perm (readable s) := by
  cases s with
  | memory m => cases h; exact .refl _
  | table s =>
    obtain ⟨hread, -⟩ := TableStore.readAll_eq_ok h
    rw [← hread]
    exact (List.mergeSort_perm _ _).filterMap _

theorem Keyed.mem_snapshot (hk : s.Keyed) (h : s.snapshot = .ok tasks) :
    t ∈ tasks ↔ s.task? t.id = some t := by
  rw [(snapshot_perm h).mem_iff, hk.mem_readable]

theorem Keyed.nodup_snapshot (hk : s.Keyed) (h : s.snapshot = .ok tasks) :
    (tasks.map (·.id)).Nodup :=
  ((snapshot_perm h).map (·.id)).nodup_iff.mpr hk.nodup_readable

end Store

/-! ## What a sweep leaves beside the tasks -/

namespace TableStore

variable {s : TableStore}

theorem fatalIssue_of_lookup {s' : TableStore}
    (h : s'.records.lookup fatalKey = s.records.lookup fatalKey) :
    s'.fatalIssue = s.fatalIssue := by
  rw [fatalIssue, fatalIssue, readRecord, readRecord, h]

theorem fatalIssue_heartbeatMarker (s : TableStore) (beat : Instant) :
    (s.heartbeatMarker beat).2.fatalIssue = s.fatalIssue := by
  unfold heartbeatMarker
  split
  · rfl
  · rfl
  · exact fatalIssue_of_lookup (by rw [lookup_putRecord, if_neg (by decide)])

end TableStore

namespace Store

theorem fatalIssue_reclaimStale (s : Store) (cutoff now : Instant) :
    (s.reclaimStale cutoff now).2.fatalIssue = s.fatalIssue := by
  cases s with
  | memory m => rfl
  | table s => exact TableStore.fatalIssue_of_lookup (congrArg _ (s.records_sweep _ _ _))

theorem fatalIssue_expireDecisions (s : Store) (cutoff now : Instant) :
    (s.expireDecisions cutoff now).2.fatalIssue = s.fatalIssue := by
  cases s with
  | memory m => rfl
  | table s => exact TableStore.fatalIssue_of_lookup (congrArg _ (s.records_sweep _ _ _))

theorem fatalIssue_heartbeatMarker (s : Store) (beat : Instant) :
    (s.heartbeatMarker beat).2.fatalIssue = s.fatalIssue := by
  cases s with
  | memory m => rfl
  | table s => exact s.fatalIssue_heartbeatMarker beat

end Store

/-- No step of a sweep touches the fatal issue. -/
theorem Sweep.fatalIssue_step (p : ReaperPolicy) (now : Instant) (sweep : Sweep) (s : Store)
    (notices : List Notice) : (sweep.step p now s notices).2.1.fatalIssue = s.fatalIssue := by
  cases sweep with
  | reclaiming =>
    rw [← s.fatalIssue_reclaimStale (now - p.staleAfter.toInt64) now, step]
    split <;> simp_all
  | expiring began report =>
    rw [step]
    split
    · rfl
    · next ttl _ =>
      rw [← s.fatalIssue_expireDecisions (began - ttl.toInt64) now]
      split <;> simp_all
  | telling left report => cases left <;> rfl
  | beating report =>
    rw [← s.fatalIssue_heartbeatMarker now, step]
    split <;> simp_all
  | ended result => rfl

theorem Sweep.fatalIssue_run (p : ReaperPolicy) (now : Instant) (n : Nat) (sweep : Sweep)
    (s : Store) (notices : List Notice) :
    (run p now n sweep s notices).2.1.fatalIssue = s.fatalIssue := by
  induction n generalizing sweep s notices with
  | zero => rfl
  | succ n ih => rw [run_succ, ih, fatalIssue_step]

theorem ReaperPolicy.fatalIssue_sweep (p : ReaperPolicy) (now : Instant) (s : Store) :
    (p.sweep now s).2.1.fatalIssue = s.fatalIssue := by
  rw [store_sweep, Sweep.fatalIssue_run]

/-! ## What a sweep reclaims -/

/-- The tasks that the sweep has taken from their workers. -/
def SweepReport.reclaimed (r : SweepReport) : List TaskId := r.requeued ++ r.abandoned

namespace ReaperPolicy.Passes

variable {p : ReaperPolicy} {now : Instant} {s s₁ s₂ : Store} {tasks : List Task}
  {reports : List (TaskId × Reclaimed)} {expired : List (TaskId × Unit)}

/-- **A sweep reclaims the tasks that are stuck in a snapshot.** -/
theorem reclaimed_perm (h : p.Passes now s reports expired s₁ s₂) (hk : s.Keyed)
    (htasks : s.snapshot = .ok tasks) :
    (reportOf reports expired).reclaimed.Perm
      ((Issue.stuck tasks p.staleAfter now).map (·.id)) := by
  have hnodup : ((Issue.stuck tasks p.staleAfter now).map (·.id)).Nodup :=
    (List.filter_sublist.map _).nodup (hk.nodup_snapshot htasks)
  refine (SweepReport.ofReclaimed_perm reports).trans
    ((List.perm_ext_iff_of_nodup h.reclaim.reaps.nodup hnodup).mpr fun id => ⟨?_, ?_⟩)
  · intro hid
    obtain ⟨t, _, _, ht, _, hs, _⟩ := (h.reclaim.reaps.each id).of_mem hid
    obtain rfl := Store.id_of_task? ht
    exact List.mem_map_of_mem (List.mem_filter.mpr ⟨(hk.mem_snapshot htasks).mpr ht, hs⟩)
  · intro hid
    obtain ⟨t, ht, rfl⟩ := List.mem_map.mp hid
    obtain ⟨hmem, hs⟩ := List.mem_filter.mp ht
    obtain ⟨_, _, _, hreport, _⟩ :=
      h.reclaim.reaps.taken ((hk.mem_snapshot htasks).mp hmem) hs
    exact List.mem_map_of_mem hreport

/-- In a snapshot of what a sweep has left nothing is stuck. -/
theorem stuck_eq_nil (h : p.Passes now s reports expired s₁ s₂) {s' : Store} (hk : s'.Keyed)
    (hsame : s₂.Same s') (htasks : s'.snapshot = .ok tasks) :
    Issue.stuck tasks p.staleAfter now = [] := by
  refine List.filter_eq_nil_iff.mpr fun t ht hstale => ?_
  have hfound := (hk.mem_snapshot htasks).mp ht
  rw [hsame.task?] at hfound
  cases hstale.symm.trans (h.nobody_behind t.id t hfound).1

end ReaperPolicy.Passes

/-- A sweep of a store that can be read takes exactly the stale tasks from their workers. -/
theorem ReaperPolicy.Sweeps.frees_iff {p : ReaperPolicy} {now : Instant} {s : Store} {id : TaskId}
    {t : Task} {swept : Answer SweepReport × Store × List Notice} (h : Sweeps p now s swept)
    (hr : s.Readable) (ht : s.task? id = some t) :
    s.Frees swept.2.1 id ↔ MemoryStore.isStale (now - p.staleAfter.toInt64) t = true := by
  constructor
  · intro hfrees
    obtain ⟨u, hu, hstale⟩ := h.stale hfrees
    cases hu.symm.trans ht
    exact hstale
  · exact fun hstale => (h.frees ht hstale).resolve_right fun hunread => hunread.1 hr

/-! ## The alarm -/

/-- What a list of issues says of held tasks is what a sweep reports that it has reclaimed. -/
structure Monitor.Announces (issues : List Issue) (tasks : List Task) (report : SweepReport) :
    Prop where
  raised : (∃ i ∈ issues, i.kind = .stuckClaims) ↔
    report.requeued ≠ [] ∨ report.abandoned ≠ []
  counted : ∀ i ∈ issues, i.kind = .stuckClaims → i.count = report.reclaimed.length
  listed : ∀ i ∈ issues, i.kind = .stuckClaims →
    i.tasks = ((tasks.map (·.id)).filter (· ∈ report.reclaimed)).take 20

namespace Monitor

variable {m : Monitor} {s : Store} {now : Instant} {issues : List Issue} {tasks : List Task}
  {report : SweepReport}

theorem issues_of_readable (hr : s.Readable) (m : Monitor) (now : Instant) :
    (∃ issues, m.issues s now = .ok issues) ↔
      (∃ marker, s.readMarker = .ok marker) ∧ ∃ fatal, s.fatalIssue = .ok fatal := by
  constructor
  · rintro ⟨issues, h⟩
    obtain ⟨_, fatal, marker, _, hfatal, hmarker, _⟩ := issues_eq_ok.mp h
    exact ⟨⟨marker, hmarker⟩, fatal, hfatal⟩
  · rintro ⟨⟨marker, hmarker⟩, fatal, hfatal⟩
    obtain ⟨tasks, htasks⟩ := Store.exists_snapshot hr
    exact ⟨_, issues_eq_ok.mpr ⟨tasks, fatal, marker, htasks, hfatal, hmarker, rfl⟩⟩

/-- A list of issues announces a report that is about the tasks that are stuck. -/
theorem announces_of_perm (h : m.issues s now = .ok issues) (hk : s.Keyed)
    (htasks : s.snapshot = .ok tasks)
    (hperm : report.reclaimed.Perm ((Issue.stuck tasks m.staleAfter now).map (·.id))) :
    Announces issues tasks report := by
  have hissue := fun i => mem_issues_stuck h htasks (i := i)
  have hlength : (Issue.stuck tasks m.staleAfter now).length = report.reclaimed.length := by
    rw [hperm.length_eq, List.length_map]
  -- Ids are not repeated, so a task of the snapshot is reported only if it is stuck itself.
  have hids : (tasks.map (·.id)).filter (· ∈ report.reclaimed) =
      (Issue.stuck tasks m.staleAfter now).map (·.id) := by
    rw [List.filter_map, Issue.stuck]
    refine congrArg _ (List.filter_congr fun t ht => Bool.eq_iff_iff.mpr ?_)
    rw [Function.comp_apply, decide_eq_true_eq, hperm.mem_iff]
    constructor
    · intro hid
      obtain ⟨u, hu, hid⟩ := List.mem_map.mp hid
      obtain ⟨humem, hstale⟩ := List.mem_filter.mp hu
      rwa [← List.inj_on_of_nodup_map (hk.nodup_snapshot htasks) humem ht hid]
    · exact fun hstale => List.mem_map_of_mem (List.mem_filter.mpr ⟨ht, hstale⟩)
  refine ⟨?_, fun i hi hkind => ?_, fun i hi hkind => ?_⟩
  · have hnone : report.reclaimed = [] ↔ Issue.stuck tasks m.staleAfter now = [] := by
      rw [← List.length_eq_zero_iff, ← hlength, List.length_eq_zero_iff]
    rw [← not_and_or, ← List.append_eq_nil_iff, ← SweepReport.reclaimed, hnone]
    constructor
    · rintro ⟨i, hi⟩
      exact ((hissue i).mp hi).1
    · exact fun hstuck => ⟨_, (hissue _).mpr ⟨hstuck, rfl⟩⟩
  · obtain ⟨_, rfl⟩ := (hissue i).mp ⟨hi, hkind⟩
    exact hlength
  · obtain ⟨_, rfl⟩ := (hissue i).mp ⟨hi, hkind⟩
    rw [hids, ← List.map_take]
    rfl

end Monitor

/-- **The monitor and the reaper agree on stuck tasks**, on a store of either kind whose rows can be
read. The monitor has a list of issues if the marker and the fatal issue can be read as well. It
says something of held tasks exactly if a sweep of this instant that goes by the same span requeues
or abandons a task; it counts the tasks that this sweep takes from their workers and names the first
twenty of them in the order of the snapshot; and after the sweep it has nothing to say of them. Its
list falls strictly in severity, with at most one issue of each kind. -/
theorem alarm_agrees {s : Store} (hk : s.Keyed) (hr : s.Readable) (p : ReaperPolicy)
    (deployed : Option String) (now : Instant) :
    let m : Monitor := ⟨p.staleAfter, deployed⟩
    ((∃ issues, m.issues s now = .ok issues) ↔
      (∃ marker, s.readMarker = .ok marker) ∧ ∃ fatal, s.fatalIssue = .ok fatal) ∧
    ∀ issues, m.issues s now = .ok issues → Issue.Ranked issues ∧
      ∃ tasks report s' sent issues', s.snapshot = .ok tasks ∧
        p.sweep now s = (.ok report, s', sent) ∧
        (∀ id, id ∈ report.reclaimed ↔ s.Frees s' id) ∧
        Monitor.Announces issues tasks report ∧
        m.issues s' now = .ok issues' ∧ ∀ i ∈ issues', i.kind ≠ .stuckClaims := by
  intro m
  have hlist := Monitor.issues_of_readable hr m now
  refine ⟨hlist, fun issues h => ⟨Monitor.ranked_issues h, ?_⟩⟩
  obtain ⟨hmarker, hfatal⟩ := hlist.mp ⟨issues, h⟩
  obtain ⟨tasks, _, _, htasks, _⟩ := Monitor.issues_eq_ok.mp h
  obtain ⟨reports, expired, s₁, s₂, s', sent, hpasses, hsame, hintact, hsweep⟩ :=
    p.exists_sweep ⟨hk, hr, hmarker⟩ now
  have hperm := hpasses.reclaimed_perm hk htasks
  have hkept := p.fatalIssue_sweep now s
  have hsweeps := ReaperPolicy.sweeps_sweep hk p now
  rw [hsweep] at hkept hsweeps
  obtain ⟨issues', h'⟩ := (Monitor.issues_of_readable hintact.readable m now).mpr
    ⟨hintact.marker, by rw [hkept]; exact hfatal⟩
  obtain ⟨tasks', _, _, htasks', _⟩ := Monitor.issues_eq_ok.mp h'
  refine ⟨tasks, _, s', sent, issues', htasks, hsweep, fun id => ?_,
    Monitor.announces_of_perm h hk htasks hperm, h', fun i hi hkind => ?_⟩
  · rw [hperm.mem_iff]
    constructor
    · intro hid
      obtain ⟨t, ht, rfl⟩ := List.mem_map.mp hid
      obtain ⟨hmem, hstale⟩ := List.mem_filter.mp ht
      exact (hsweeps.frees_iff hr ((hk.mem_snapshot htasks).mp hmem)).mpr hstale
    · intro hfrees
      obtain ⟨t, ht, hstale⟩ := hsweeps.stale hfrees
      obtain rfl := Store.id_of_task? ht
      exact List.mem_map_of_mem (List.mem_filter.mpr ⟨(hk.mem_snapshot htasks).mpr ht, hstale⟩)
  · obtain ⟨hstuck, _⟩ := (Monitor.mem_issues_stuck h' htasks').mp ⟨hi, hkind⟩
    exact hstuck (hpasses.stuck_eq_nil hintact.keyed hsame htasks')

/-- A task in the hands of a worker, last changed at an instant. -/
def heldSince (id : TaskId) (status : TaskStatus) (since : Instant) : Task :=
  { Task.create id ⟨.impl, "build", none, none⟩ 1 0 with
    status := status, claimedBy := some "w", attemptCount := 2, updatedAt := since }

/-- Two tasks that were changed before a cutoff at 5, and one that was changed at it. -/
def heldTasks : List Task :=
  [heldSince "a" .running 0, heldSince "b" .claimed 4, heldSince "c" .running 5]

/-- The alarm names the tasks that were changed before the cutoff, and not the one at it. -/
theorem alarm_agrees_edge :
    let s := Store.table { rows := heldTasks.map Row.ofTask }
    s.Keyed ∧ s.Readable ∧ ∃ issues report s' sent,
      (Monitor.mk 4 none).issues s 9 = .ok issues ∧
      (ReaperPolicy.mk 1000 4 none).sweep 9 s = (.ok report, s', sent) ∧
      ∃ i ∈ issues, i.kind = .stuckClaims ∧ i.count = report.reclaimed.length ∧
        i.tasks = ["a", "b"] := by
  intro s
  have hsound : Sound (heldTasks.map Task.origin) :=
    ⟨by decide, by decide, fun o ho c hc => by
      obtain ⟨t, ht, rfl⟩ := List.mem_map.mp ho
      simp only [heldTasks, List.mem_cons, List.not_mem_nil, or_false] at ht
      rcases ht with rfl | rfl | rfl <;> cases hc⟩
  have hk : s.Keyed := TableStore.keyed_rows (by decide) []
  have hr : s.Readable := TableStore.readable_rows (Task.reread_sound hsound) []
  have hsnapshot : s.snapshot = .ok heldTasks :=
    TableStore.snapshot_mirrored (m := { tasks := heldTasks }) rfl hsound
  obtain ⟨hlist, hagrees⟩ := alarm_agrees hk hr (.mk 1000 4 none) none 9
  obtain ⟨issues, hissues⟩ := hlist.mpr ⟨⟨none, rfl⟩, none, rfl⟩
  obtain ⟨_, tasks, report, s', sent, _, htasks, hsweep, hfrees, hannounces, _⟩ :=
    hagrees issues hissues
  cases htasks.symm.trans hsnapshot
  have hsweeps := ReaperPolicy.sweeps_sweep hk (.mk 1000 4 none) 9
  rw [hsweep] at hsweeps
  have hstale : ∀ t ∈ heldTasks,
      t.id ∈ report.reclaimed ↔ MemoryStore.isStale (9 - Span.toInt64 4) t = true := fun t ht =>
    (hfrees t.id).trans (hsweeps.frees_iff hr ((hk.mem_snapshot hsnapshot).mp ht))
  have hnamed : (heldTasks.filter fun t => t.id ∈ report.reclaimed) =
      heldTasks.filter (MemoryStore.isStale (9 - Span.toInt64 4)) :=
    List.filter_congr fun t ht => Bool.eq_iff_iff.mpr (decide_eq_true_iff.trans (hstale t ht))
  obtain ⟨i, hi, hkind⟩ := hannounces.raised.mpr <| not_and_or.mp fun ⟨hrequeued, habandoned⟩ => by
    have ha := (hstale _ List.mem_cons_self).mpr (by decide)
    rw [SweepReport.reclaimed, hrequeued, habandoned] at ha
    cases ha
  refine ⟨hk, hr, issues, report, s', sent, hissues, hsweep, i, hi, hkind,
    hannounces.counted i hi hkind, ?_⟩
  rw [hannounces.listed i hi hkind, List.filter_map]
  show ((heldTasks.filter fun t => t.id ∈ report.reclaimed).map (·.id)).take 20 = _
  rw [hnamed]
  decide

end TaskPipeline
