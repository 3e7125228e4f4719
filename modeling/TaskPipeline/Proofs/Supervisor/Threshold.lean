import TaskPipeline.Proofs.Reaper.Threshold
import TaskPipeline.Proofs.Supervisor.Turn

/-!
# A longer threshold is never more aggressive

Four settings say how long something may last: the silence of a worker, the wait for a decision, the
silence of the pipeline, and the health that refills the restart budget. Main statement:
`thresholds_milder`. To raise one of them only spares what would have been hit, as long as its
milliseconds can be counted with a sign; beyond that it turns around (`thresholds_wrap`).
-/

namespace TaskPipeline

namespace Supervisor

variable {s : Supervisor} {g : Signals}

/-! ## A pipeline that is stuck -/

/-- The launched pipeline, which is old enough to be judged, has written its marker in the version
that is deployed. -/
structure Reported (s : Supervisor) (g : Signals) (marker : PipelineMarker) : Prop where
  launched : ∃ child, s.child = some child ∧ child.pid.all (· = marker.pid) = true
  runs : g.exited = false
  settled : s.inGrace g = false
  read : g.marker = .ok (some marker)
  deployed : g.deployed.all (· = marker.version) = true

theorem judgeProbe_not_stuck (s : Supervisor) (g : Signals) (age : Int64) :
    (s.judgeProbe g).1 ≠ .ok (.restart (.stuck age)) := by
  unfold judgeProbe
  split
  · simp
  · split
    · simp
    · dsimp only
      split <;> simp

theorem judgeAge_stuck {marker : PipelineMarker} {age : Int64} :
    judgeMarker.judgeAge s g marker = some (.stuck age) ↔ age = g.now - marker.heartbeatAt ∧
      s.policy.heartbeatStale.toInt64 < g.now - marker.heartbeatAt := by
  rw [judgeMarker.judgeAge]
  split
  · next hold => simp [hold, eq_comm]
  · next hnew => simp [hnew]

theorem judgeMarker_stuck {child : Child} {marker : PipelineMarker} {age : Int64} :
    (s.judgeMarker child g marker).2 = some (.stuck age) ↔
      child.pid.all (· = marker.pid) = true ∧ g.deployed.all (· = marker.version) = true ∧
        age = g.now - marker.heartbeatAt ∧
        s.policy.heartbeatStale.toInt64 < g.now - marker.heartbeatAt := by
  unfold judgeMarker
  split
  · next hpid =>
    cases hd : g.deployed with
    | none => simp [hpid, judgeAge_stuck]
    | some version =>
      by_cases hv : version = marker.version
      · simp [hpid, hv, judgeAge_stuck]
      · simp [hpid, hv]
  · next hpid => simp [hpid]

/-- **The verdict is stuck exactly if the marker that is reported is too old.** -/
theorem check_stuck {age : Int64} : (s.check g).1 = .ok (.restart (.stuck age)) ↔
    ∃ marker, s.Reported g marker ∧ age = g.now - marker.heartbeatAt ∧
      s.policy.heartbeatStale.toInt64 < g.now - marker.heartbeatAt := by
  constructor
  · intro h
    unfold check at h
    cases hc : s.child with
    | none => rw [hc] at h; cases h
    | some child =>
      rw [hc] at h
      dsimp only at h
      split at h
      · cases h
      next hexited =>
      split at h
      · cases h
      next hgrace =>
      cases hm : g.marker with
      | error e => rw [hm] at h; cases h
      | ok marker =>
        rw [hm] at h
        cases marker with
        | none => exact absurd h (judgeProbe_not_stuck _ _ _)
        | some marker =>
          dsimp only at h
          rcases hjudge : s.judgeMarker child g marker with ⟨s', reason⟩
          rw [hjudge] at h
          cases reason with
          | none => exact absurd h (judgeProbe_not_stuck _ _ _)
          | some reason =>
            cases h
            obtain ⟨hpid, hdeployed, hage⟩ := judgeMarker_stuck.mp (congrArg Prod.snd hjudge)
            exact ⟨marker, ⟨⟨child, hc, hpid⟩, by simpa using hexited, by simpa using hgrace, hm,
              hdeployed⟩, hage⟩
  · rintro ⟨marker, ⟨⟨child, hc, hpid⟩, hexited, hgrace, hm, hdeployed⟩, hage⟩
    have hjudge := (judgeMarker_stuck (s := s) (g := g)).mpr ⟨hpid, hdeployed, hage⟩
    simp only [check, hc, hexited, hgrace, hm, Bool.false_eq_true, if_false]
    rcases hj : s.judgeMarker child g marker with ⟨s', reason⟩
    rw [hj] at hjudge
    cases hjudge
    rfl

/-! ## Health that has lasted -/

/-- No restart refills the budget. -/
theorem restart_ne_zero (reason : RestartReason) (g : Signals) (h : 0 < s.state.restartCount) :
    (s.restart reason g).2.1.state.restartCount ≠ 0 := by
  unfold restart
  cases hcount : countUp s.state.restartCount with
  | error e => exact fun hzero => by rw [hzero] at h; exact absurd h (by decide)
  | ok count =>
    have hne : count ≠ 0 := by
      rintro rfl
      have := toNat_countUp hcount
      simp at this
    dsimp only
    split
    · unfold giveUp
      dsimp only
      cases g.recordFatal with
      | none => unfold terminate; cases s.child <;> exact hne
      | some answer => cases answer <;> [exact hne; (unfold terminate; cases s.child <;> exact hne)]
    · unfold terminate ensureRunning
      cases s.child <;> cases g.launch <;> exact hne

/-- The supervisor with another time that health has to last. -/
def resetting (s : Supervisor) (r : Span) : Supervisor :=
  { s with policy := { s.policy with healthyReset := r } }

theorem judgeMarker_resetting (s : Supervisor) (r : Span) (child : Child) (g : Signals)
    (marker : PipelineMarker) : (s.resetting r).judgeMarker child g marker =
      ((s.judgeMarker child g marker).1.resetting r, (s.judgeMarker child g marker).2) := by
  unfold judgeMarker
  split
  · cases g.deployed with
    | none => rfl
    | some version => dsimp only; split <;> rfl
  · rfl

theorem judgeProbe_resetting (s : Supervisor) (r : Span) (g : Signals) :
    ((s.resetting r).judgeProbe g).1 = (s.judgeProbe g).1 := by
  unfold judgeProbe
  split
  · rfl
  · rw [show (s.resetting r).state = s.state from rfl]
    cases countUp s.state.consecutiveProbeFailures <;> rfl

/-- No check looks at how long health has to last. -/
theorem check_resetting (s : Supervisor) (r : Span) (g : Signals) :
    ((s.resetting r).check g).1 = (s.check g).1 := by
  unfold check
  rw [show (s.resetting r).child = s.child from rfl,
    show (s.resetting r).inGrace g = s.inGrace g from rfl]
  cases s.child with
  | none => rfl
  | some child =>
    dsimp only
    split
    · rfl
    split
    · rfl
    cases g.marker with
    | error e => rfl
    | ok marker =>
      cases marker with
      | none => exact judgeProbe_resetting s r g
      | some marker =>
        simp only [judgeMarker_resetting]
        cases (s.judgeMarker child g marker).2 with
        | some reason => rfl
        | none => exact judgeProbe_resetting _ r g

/-- **A turn refills the budget exactly if the pipeline is healthy and has been long enough.** -/
theorem refills_iff (h : 0 < s.state.restartCount) :
    (s.tick g).2.1.state.restartCount = 0 ↔ (s.check g).1 = .ok .healthy ∧
      g.probeSucceeds = true ∧
      s.policy.healthyReset.toInt64 ≤ g.now - s.state.healthySince.getD g.now := by
  have hne : s.state.restartCount ≠ 0 := fun hzero => by
    rw [hzero] at h
    exact absurd h (by decide)
  have hcheck := s.checks_check g
  rcases hc : s.check g with ⟨verdict, s', looks⟩
  rw [hc] at hcheck
  simp only [tick, hc]
  cases hcheck with
  | unread | starting => simp [hne]
  | uncounted _ hglances => simp [hglances.restartCount, hne]
  | condemned reason hglances | unresponsive reason _ hglances =>
    have hrestart := s'.restart_ne_zero reason g (by rw [hglances.restartCount]; exact h)
    simp [hrestart]
  | failed hprobe hglances _ hfailures => simp [hfailures, hprobe, hglances.restartCount, hne]
  | passed hprobe hglances hsince hfailures =>
    dsimp only
    rw [if_pos hfailures]
    simp only [noteHealthy, hsince, hglances.restartCount, hglances.policy]
    split
    · next hlasts => simpa [hprobe] using hlasts.2
    · next hlasts =>
      have hshort := fun hle => hlasts ⟨h, hle⟩
      simpa [hprobe, hne, hglances.restartCount] using hshort

end Supervisor

/-! ## Main statement -/

/-- The supervisor under settings. -/
def Supervisor.under (s : Supervisor) (settings : SupervisorSettings) : Supervisor :=
  { s with policy := .ofSettings settings }

/-- Nothing is hit under a threshold of `b` seconds that is not hit under one of `a`, except that a
sweep may fail on a row that it cannot read. -/
structure Milder (b a : UInt64) : Prop where
  reclaims : ∀ (settings : ReaperSettings) (s : Store) (now : Instant) (id : TaskId), s.Keyed →
    Span.Reaches b now →
    s.Frees ((ReaperPolicy.ofSettings { settings with staleAfterSecs := b }).sweep now s).2.1 id →
    let swept := (ReaperPolicy.ofSettings { settings with staleAfterSecs := a }).sweep now s
    s.Frees swept.2.1 id ∨ ¬s.Readable ∧ ∃ e, swept = (.error e, s, [])
  expires : 0 < a → ∀ (settings : ReaperSettings) (s : Store) (now : Instant) (id : TaskId),
    s.Keyed → Span.Reaches b now →
    s.GivesUp ((ReaperPolicy.ofSettings { settings with decisionTtlSecs := b }).sweep now s).2.1
      id →
    let swept := (ReaperPolicy.ofSettings { settings with decisionTtlSecs := a }).sweep now s
    s.GivesUp swept.2.1 id ∨
      ¬s.Readable ∧ ∃ e, swept.1 = .error e ∧ ∀ id, ¬s.GivesUp swept.2.1 id
  stuck : ∀ (settings : SupervisorSettings) (s : Supervisor) (g : Signals) (age : Int64),
    ((s.under { settings with heartbeatStaleSecs := b }).check g).1 =
      .ok (.restart (.stuck age)) →
    ((s.under { settings with heartbeatStaleSecs := a }).check g).1 = .ok (.restart (.stuck age))
  refills : ∀ (settings : SupervisorSettings) (s : Supervisor) (g : Signals),
    0 < s.state.restartCount →
    ((s.under { settings with healthyResetSecs := b }).tick g).2.1.state.restartCount = 0 →
    ((s.under { settings with healthyResetSecs := a }).tick g).2.1.state.restartCount = 0

namespace ReaperPolicy

variable {now cutoff cutoff' : Instant} {t : Task}

theorem isStale_mono (h : cutoff ≤ cutoff') (ht : MemoryStore.isStale cutoff t = true) :
    MemoryStore.isStale cutoff' t = true := by
  simp only [MemoryStore.isStale, Bool.and_eq_true, decide_eq_true_eq] at ht ⊢
  exact ⟨ht.1, Int64.lt_of_lt_of_le ht.2 h⟩

theorem isOverdue_mono {settings : ReaperSettings} {a b : UInt64} (hpos : 0 < a) (hab : a ≤ b)
    (h : now - (Span.ofSeconds b).toInt64 ≤ now - (Span.ofSeconds a).toInt64)
    (ht : (ofSettings { settings with decisionTtlSecs := b }).isOverdue now t = true) :
    (ofSettings { settings with decisionTtlSecs := a }).isOverdue now t = true := by
  have hpos' : 0 < b := UInt64.lt_of_lt_of_le hpos hab
  simp only [isOverdue, ofSettings, if_pos hpos, if_pos hpos', Option.any_some,
    MemoryStore.isOverdue, Bool.and_eq_true, decide_eq_true_eq] at ht ⊢
  exact ⟨ht.1, Int64.lt_of_lt_of_le ht.2 h⟩

end ReaperPolicy

/-- **To raise a threshold never makes anything more aggressive**, as long as its milliseconds can
be counted. -/
theorem thresholds_milder {a b : UInt64} (hab : a ≤ b) (hb : Span.Counts b) : Milder b a where
  reclaims settings s now id hk hreaches hfrees := by
    obtain ⟨t, ht, hstale⟩ := (ReaperPolicy.sweeps_sweep hk _ now).stale hfrees
    exact (ReaperPolicy.sweeps_sweep hk _ now).frees ht
      (ReaperPolicy.isStale_mono (Span.cutoff_le hab hb hreaches) hstale)
  expires hpos settings s now id hk hreaches hgives := by
    obtain ⟨t, ht, hoverdue⟩ := (ReaperPolicy.sweeps_sweep hk _ now).overdue hgives
    exact (ReaperPolicy.sweeps_sweep hk _ now).givesUp ht
      (ReaperPolicy.isOverdue_mono hpos hab (Span.cutoff_le hab hb hreaches) hoverdue)
  stuck settings s g age h := by
    obtain ⟨marker, hreported, hage, hold⟩ := Supervisor.check_stuck.mp h
    have hgrace := hreported.settled
    simp only [Supervisor.inGrace, Supervisor.under, SupervisorPolicy.ofSettings] at hgrace
    refine (Supervisor.check_stuck (s := s.under _)).mpr ⟨marker, ?_, hage, ?_⟩
    · exact ⟨hreported.launched, hreported.runs, hgrace, hreported.read, hreported.deployed⟩
    · exact Int64.lt_of_le_of_lt (Span.toInt64_le hab hb) hold
  refills settings s g hpos h := by
    obtain ⟨hhealthy, hprobe, hlasts⟩ := (Supervisor.refills_iff (s := s.under _) hpos).mp h
    refine (Supervisor.refills_iff (s := s.under _) hpos).mpr ⟨?_, hprobe, ?_⟩
    · rw [← hhealthy]
      exact ((s.under { settings with healthyResetSecs := b }).check_resetting
        (.ofSeconds a) g)
    · exact Int64.le_trans (Span.toInt64_le hab hb) hlasts

/-- A task that has been in some status since an instant, in the hands of a worker or not. -/
def standing (status : TaskStatus) (holder : Option WorkerId) (since : Instant) : Task :=
  { Task.create "a" ⟨.impl, "build", none, none⟩ 3 0 with
    status := status, attemptCount := 1, claimedBy := holder, updatedAt := since }

/-- A worker that was silent for a quarter of an hour has its task taken after ten minutes, too. -/
theorem thresholds_milder_silent :
    let s : Store := .memory { tasks := [standing .running (some "w") 100000] }
    (600 : UInt64) ≤ 800 ∧ Span.Counts 800 ∧
      s.Frees ((ReaperPolicy.ofSettings { staleAfterSecs := 800 }).sweep 1000000 s).2.1 "a" ∧
      s.Frees ((ReaperPolicy.ofSettings { staleAfterSecs := 600 }).sweep 1000000 s).2.1 "a" := by
  intro s
  have hcounts : Span.Counts 800 := by unfold Span.Counts; decide
  have hfrees : s.Frees ((ReaperPolicy.ofSettings { staleAfterSecs := 800 }).sweep
    1000000 s).2.1 "a" := ⟨_, _, rfl, rfl, rfl, rfl⟩
  have hmilder := (thresholds_milder (a := 600) (by decide) hcounts).reclaims {} s 1000000 "a"
    (by decide) (by unfold Span.Reaches; decide) hfrees
  exact ⟨by decide, hcounts, hfrees, hmilder.resolve_right fun h => h.1 trivial⟩

/-- The seconds whose milliseconds come out just below zero. -/
def ages : UInt64 := 18446744073709551

/-- A supervisor that has restarted three times and has seen health for a second. -/
def recovering : Supervisor where
  policy := .ofSettings {}
  state := { restartCount := 3, healthySince := some 0 }
  child := some ⟨none⟩

/-- What a supervisor sees that is healthy, with a sign of life of this instant. -/
def lively : Signals where
  now := 1000
  clock := 1000
  exited := false
  probeSucceeds := true
  launch := none
  deployed := none
  marker := .ok (some ⟨"1", 1, 0, 1000⟩)
  recordFatal := none

/-- Ages hit at once what ten minutes spare: a task that was touched at this instant, one that has
just come to wait, a pipeline that has just given a sign of life, a budget after a second. -/
theorem thresholds_wrap :
    let runs : Store := .memory { tasks := [standing .running (some "w") 1000] }
    let waits : Store := .memory { tasks := [standing .needsDecision none 1000] }
    (600 : UInt64) ≤ ages ∧
      runs.Frees ((ReaperPolicy.ofSettings { staleAfterSecs := ages }).sweep 1000 runs).2.1 "a" ∧
      ¬runs.Frees ((ReaperPolicy.ofSettings { staleAfterSecs := 600 }).sweep 1000 runs).2.1 "a" ∧
      waits.GivesUp ((ReaperPolicy.ofSettings { decisionTtlSecs := ages }).sweep 1000 waits).2.1
        "a" ∧
      ¬waits.GivesUp ((ReaperPolicy.ofSettings { decisionTtlSecs := 600 }).sweep 1000 waits).2.1
        "a" ∧
      ((recovering.under { heartbeatStaleSecs := ages }).check lively).1 =
        .ok (.restart (.stuck 0)) ∧
      ((recovering.under { heartbeatStaleSecs := 600 }).check lively).1 = .ok .healthy ∧
      ((recovering.under { healthyResetSecs := ages }).tick lively).2.1.state.restartCount = 0 ∧
      ((recovering.under { healthyResetSecs := 600 }).tick lively).2.1.state.restartCount = 3 := by
  refine ⟨by decide, ⟨_, _, rfl, rfl, rfl, rfl⟩, ?_, ⟨_, _, rfl, rfl, rfl, rfl⟩, ?_, by decide,
    by decide, by decide, by decide⟩
  · rintro ⟨_, _, ht, _, hu, hfree⟩
    cases ht
    cases hu
    cases hfree
  · rintro ⟨_, _, ht, _, hu, hfailed⟩
    cases ht
    cases hu
    cases hfailed

end TaskPipeline
