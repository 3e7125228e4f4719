import TaskPipeline.Proofs.Store.Sweep
import TaskPipeline.Reaper

/-!
# What a step of a sweep does

`Sweep.Acts` lists every way in which a step of a sweep can go, on a store of any content: what it
leaves and which notices it sends. `acts_step` is the only place that opens the steps.
-/

namespace TaskPipeline

/-- The instant that lies a span back, if there is one. -/
theorem toInt_before {now : Instant} {s : Span} (hs : (s : Int) ≤ Int64.maxValue.toInt)
    (h : Int64.minValue.toInt ≤ now.toInt - (s : Int)) :
    (now - s.toInt64).toInt = now.toInt - s := by
  have hnow := now.toInt_le
  rw [Int64.toInt_sub, Span.toInt_toInt64 hs]
  rw [Int64.toInt_minValue] at h
  rw [Int64.toInt_maxValue] at hnow
  exact Int.bmod_eq_of_le (by omega) (by omega)

/-- The notice about the task that is read under an id. -/
def Store.noticeOf (s : Store) (id : TaskId) : List Notice :=
  ((s.task? id).bind Notice.ofTask?).toList

namespace Sweep

/-- One step of a sweep: where it leads, the store that it leaves and the notices that it sends. -/
inductive Acts (p : ReaperPolicy) (now : Instant) (s : Store) :
    Sweep → Sweep → Store → List Notice → Prop where
  | reclaimFails (e : StoreError) : Acts p now s .reclaiming (.ended (.error e)) s []
  | reclaims {reports : List (TaskId × Reclaimed)} {s' : Store} :
      s.Reaps (MemoryStore.isStale (now - p.staleAfter.toInt64)) (·.reclaim now) reports s' →
      Acts p now s .reclaiming (.expiring now (.ofReclaimed reports)) s' []
  /-- Decisions may take any time. -/
  | expiresNone (began : Instant) (report : SweepReport) : p.decisionTtl = none →
      Acts p now s (.expiring began report) (.telling report.failed report) s []
  | expiryFails (began : Instant) (report : SweepReport) (e : StoreError) :
      Acts p now s (.expiring began report) (.ended (.error e)) s []
  | expires (began : Instant) (report : SweepReport) {ttl : Span} {reports : List (TaskId × Unit)}
      {s' : Store} : p.decisionTtl = some ttl →
      s.Reaps (MemoryStore.isOverdue (began - ttl.toInt64))
        (fun t => (t.expire now).map fun u => ((), u)) reports s' →
      Acts p now s (.expiring began report)
        (.telling (report.abandoned ++ reports.map (·.1))
          { report with expired := reports.map (·.1) }) s' []
  | tells (id : TaskId) (left : List TaskId) (report : SweepReport) :
      Acts p now s (.telling (id :: left) report) (.telling left report) s (s.noticeOf id)
  | told (report : SweepReport) : Acts p now s (.telling [] report) (.beating report) s []
  | beats (report : SweepReport) {result : Answer SweepReport} {s' : Store} : s.Same s' →
      Acts p now s (.beating report) (.ended result) s' []
  | rests (result : Answer SweepReport) : Acts p now s (.ended result) (.ended result) s []

/-- **A step of a sweep does one of the things that `Acts` lists**, if no id is used twice. -/
theorem acts_step {s : Store} (hk : s.Keyed) (p : ReaperPolicy) (now : Instant) (sweep : Sweep)
    (notices : List Notice) :
    ∃ sweep' s' sent, sweep.step p now s notices = (sweep', s', notices ++ sent) ∧
      Acts p now s sweep sweep' s' sent := by
  cases sweep with
  | reclaiming =>
    rcases Store.reclaimStale_cases hk (now - p.staleAfter.toInt64) now with
      ⟨e, hstep⟩ | ⟨reports, s', hstep, hreaps⟩
    · exact ⟨_, _, [], by simp only [step, hstep, List.append_nil], .reclaimFails e⟩
    · exact ⟨_, _, [], by simp only [step, hstep, List.append_nil], .reclaims hreaps⟩
  | expiring began report =>
    cases httl : p.decisionTtl with
    | none =>
      exact ⟨_, _, [], by simp only [step, httl, List.append_nil], .expiresNone began report httl⟩
    | some ttl =>
      rcases Store.expireDecisions_cases hk (began - ttl.toInt64) now with
        ⟨e, hstep⟩ | ⟨reports, s', hstep, hreaps⟩
      · exact ⟨_, _, [], by simp only [step, httl, hstep, List.append_nil],
          .expiryFails began report e⟩
      · exact ⟨_, _, [], by simp only [step, httl, hstep, List.append_nil, SweepReport.failed],
          .expires began report httl hreaps⟩
  | telling left report =>
    cases left with
    | nil => exact ⟨_, _, [], by simp only [step, List.append_nil], .told report⟩
    | cons id left =>
      refine ⟨_, _, _, ?_, .tells id left report⟩
      simp only [step, Store.noticeOf, Store.task?]
      cases s.get id <;> rfl
  | beating report =>
    have hsame := Store.same_heartbeatMarker s now
    rcases hbeat : s.heartbeatMarker now with ⟨answer, s'⟩
    rw [hbeat] at hsame
    cases answer <;>
      exact ⟨_, _, [], by simp only [step, hbeat, List.append_nil]; rfl, .beats report hsame⟩
  | ended result => exact ⟨_, _, [], by simp only [step, List.append_nil], .rests result⟩

variable {p : ReaperPolicy} {now : Instant} {s s' : Store} {sweep sweep' : Sweep}
  {sent : List Notice}

theorem Acts.ids (h : Acts p now s sweep sweep' s' sent) : s'.ids = s.ids := by
  cases h with
  | reclaims hreaps => exact hreaps.ids
  | expires _ _ _ hreaps => exact hreaps.ids
  | beats _ hsame => exact hsame.ids
  | _ => rfl

/-- A running task that is not stale is left alone. -/
theorem Acts.running (h : Acts p now s sweep sweep' s' sent) {id : TaskId} {v : Task}
    (hv : s.task? id = some v) (hs : v.status = .running)
    (hfresh : MemoryStore.isStale (now - p.staleAfter.toInt64) v = false) :
    s'.task? id = some v := by
  cases h with
  | reclaims hreaps =>
    have heach := hreaps.each id
    rw [hv] at heach
    generalize s'.task? id = w at heach
    cases heach with
    | taken hstale _ _ => exact nomatch hfresh.symm.trans hstale
    | spared _ _ => rfl
  | expires _ _ _ hreaps =>
    have heach := hreaps.each id
    rw [hv] at heach
    generalize s'.task? id = w at heach
    cases heach with
    | taken hoverdue _ _ => simp [MemoryStore.isOverdue, hs] at hoverdue
    | spared _ _ => rfl
  | beats _ hsame => rw [hsame.task?]; exact hv
  | _ => exact hv

/-- A step more, which changes nothing once the sweep has ended. -/
theorem run_succ (p : ReaperPolicy) (now : Instant) (n : Nat) (sweep : Sweep) (s : Store)
    (notices : List Notice) :
    run p now (n + 1) sweep s notices =
      run p now n (sweep.step p now s notices).1 (sweep.step p now s notices).2.1
        (sweep.step p now s notices).2.2 := by
  cases sweep with
  | ended result => cases n <;> rfl
  | reclaiming | expiring began report | telling left report | beating report => rfl

end Sweep

end TaskPipeline
