import TaskPipeline.Proofs.Supervisor.Turn

/-!
# The restart budget

A supervisor restarts the pipeline at most `maxRestarts` times between two refills of its budget,
and a refill is earned: by a probe that succeeds `healthyReset` or more after another one, with
nothing but health between them. The main statement is `restarts_budgeted`.

That refills are earned rests on the remembered beginning of health: every way in which a turn can
go either forgets it or leaves it at the instant of a probe since which all turns were quiet
(`Steady`).
-/

namespace TaskPipeline.Supervisor

variable {s s' : Supervisor} {g : Signals} {gs : List Signals} {acts : List SupervisorAct}
  {done earlier later : List Turn}

/-- The turn refills the restart budget. -/
def Turn.Resets (t : Turn) : Prop :=
  0 < t.before.state.restartCount ∧ ∃ s, t.after = .active s ∧ s.state.restartCount = 0

/-- The turn probes the pipeline with success. -/
def Turn.Passes (t : Turn) : Prop :=
  .probe ∈ t.acts ∧ t.signals.probeSucceeds = true

/-- No probe fails in the turn, no restart is asked for and nothing is launched. -/
structure Turn.Quiet (t : Turn) : Prop where
  noFailure : .probe ∈ t.acts → t.signals.probeSucceeds = true
  noRestart : t.before.Content t.signals
  noLaunch : launches t.acts = 0

/-- How often the pipeline is launched, or tried to be, in the turns. -/
def relaunches (ts : List Turn) : Nat := launches (ts.flatMap Turn.acts)

@[simp] theorem relaunches_nil : relaunches [] = 0 := rfl

@[simp] theorem relaunches_cons (t : Turn) (ts : List Turn) :
    relaunches (t :: ts) = launches t.acts + relaunches ts := List.countP_append

/-! ## Restarts use up the budget -/

/-- What a launch costs a turn takes from the budget, unless it refills it. -/
theorem launches_turn (h : Turns s g (.active s', acts))
    (hkeeps : ¬ Turn.Resets ⟨s, g, .active s', acts⟩) :
    launches acts + (s.policy.maxRestarts.toNat - s'.state.restartCount.toNat) ≤
      s.policy.maxRestarts.toNat - s.state.restartCount.toNat := by
  cases h with
  | waits _ => simp [launches]
  | fails _ _ hglances _ | passes _ _ hglances _ =>
    simp [launches, hglances.restartCount, SupervisorAct.isLaunch]
  | refills _ _ _ _ _ hzero _ =>
    -- A budget that is full stays full.
    have hfull : s.state.restartCount = 0 :=
      Decidable.byContradiction fun hne => hkeeps ⟨UInt32.pos_iff_ne_zero.mpr hne, s', rfl, hzero⟩
    simp [launches, hfull, hzero, SupervisorAct.isLaunch]
  | restarts hcounted hle hacts =>
    have hsucc := toNat_countUp hcounted.counts
    rw [UInt32.le_iff_toNat_le] at hle
    rw [hcounted.restartCount, hacts.launches]
    omega
  | unrecorded _ hcounted _ hacts =>
    have hsucc := toNat_countUp hcounted.counts
    rw [hcounted.restartCount, hacts.launches]
    omega

theorem launches_ended {result : Except SupervisorError Unit}
    (h : Turns s g (.ended result, acts)) : launches acts = 0 := by
  cases h with
  | givesUp _ hacts | uncounted hacts => exact hacts.launches

/-- **Until the budget is refilled, no more is launched than it has left.** -/
theorem relaunches_le (h : (Run.active s).trace gs = earlier ++ later)
    (hkeeps : ∀ t ∈ earlier, ¬ t.Resets) :
    relaunches earlier ≤ s.policy.maxRestarts.toNat - s.state.restartCount.toNat := by
  induction earlier generalizing s gs with
  | nil => simp
  | cons t earlier ih =>
    obtain ⟨g, gs, r, acts, rfl, rfl, hturn, hrest⟩ := trace_eq_cons h
    obtain ⟨hhead, htail⟩ := List.forall_mem_cons.mp hkeeps
    cases r with
    | ended result =>
      rw [trace_ended] at hrest
      obtain ⟨rfl, -⟩ := List.append_eq_nil_iff.mp hrest.symm
      simp [launches_ended hturn]
    | active s₁ =>
      have hlaunch := launches_turn hturn hhead
      have hleft := ih hrest htail
      rw [policy_turn hturn] at hleft
      rw [relaunches_cons]
      dsimp only
      omega

/-! ## Refills are earned -/

/-- The remembered beginning of health is the instant of a successful probe, and all turns since
then were quiet. -/
def Steady (done : List Turn) (s : Supervisor) : Prop :=
  ∀ since, s.state.healthySince = some since →
    ∃ older first newer, done = older ++ first :: newer ∧ first.Passes ∧
      first.signals.now = since ∧ ∀ t ∈ newer, t.Quiet

theorem Steady.of_none (h : s.state.healthySince = none) : Steady done s :=
  fun since hsince => by simp [h] at hsince

/-- A quiet turn that leaves the beginning of health where it was. -/
theorem Steady.quiet (h : Steady done s) {t : Turn} (ht : t.Quiet)
    (hsince : s'.state.healthySince = s.state.healthySince) : Steady (done ++ [t]) s' := by
  intro since hs'
  obtain ⟨older, first, newer, rfl, hpasses, hnow, hquiet⟩ := h since (hsince ▸ hs')
  refine ⟨older, first, newer ++ [t], by simp, hpasses, hnow, ?_⟩
  intro u hu
  rcases List.mem_append.mp hu with hu | hu
  · exact hquiet u hu
  · rw [List.mem_singleton.mp hu]
    exact ht

/-- A probe that succeeds begins health, or goes on with it. -/
theorem Steady.passes (h : Steady done s) {t : Turn} (hnow : t.signals.now = g.now)
    (hpasses : t.Passes) (ht : t.Quiet)
    (hsince : s'.state.healthySince = some (s.state.healthySince.getD g.now)) :
    Steady (done ++ [t]) s' := by
  cases hs : s.state.healthySince with
  | some since => exact h.quiet ht (by rw [hsince, hs, Option.getD_some])
  | none =>
    intro since hs'
    rw [hs, Option.getD_none, hs', Option.some_inj] at hsince
    exact ⟨done, t, [], rfl, hpasses, hnow.trans hsince.symm, by simp⟩

/-- A turn that probes with success and launches nothing. -/
theorem quiet_of_passes {r : Run} (hcontent : s.Content g) (hprobe : g.probeSucceeds = true)
    (hlaunch : launches acts = 0) : Turn.Quiet ⟨s, g, r, acts⟩ :=
  ⟨fun _ => hprobe, hcontent, hlaunch⟩

/-- **What a turn leaves is steady again.** -/
theorem Steady.turn (h : Steady done s) (hturn : Turns s g (.active s', acts)) :
    Steady (done ++ [⟨s, g, .active s', acts⟩]) s' := by
  cases hturn with
  | waits hcontent => exact h.quiet ⟨by simp, hcontent, rfl⟩ rfl
  | fails _ _ _ hsince => exact .of_none hsince
  | passes hcontent hprobe _ hsince =>
    exact h.passes rfl ⟨by simp, hprobe⟩
      (quiet_of_passes hcontent hprobe rfl) hsince
  | refills hcontent hprobe _ _ _ _ hsince =>
    exact h.passes rfl ⟨by simp, hprobe⟩
      (quiet_of_passes hcontent hprobe rfl) hsince
  | restarts hcounted _ _ | unrecorded _ hcounted _ _ => exact .of_none hcounted.healthySince

/-- The refill in the last of the turns is earned by a probe that succeeded so long before. -/
def Earned (lasting : Span) (done : List Turn) (t : Turn) : Prop :=
  t.Passes ∧ ∃ older first newer, done ++ [t] = older ++ first :: newer ∧ first.Passes ∧
    (lasting : Int) ≤ t.signals.now.toInt - first.signals.now.toInt ∧ ∀ u ∈ newer, u.Quiet

/-- A difference of instants that is at least a span was so before it was wrapped. -/
theorem lasts_of_sub {lasting : Span} (hspan : (lasting : Int) ≤ Int64.maxValue.toInt)
    {now since : Instant} (hle : since ≤ now) (h : lasting.toInt64 ≤ now - since) :
    (lasting : Int) ≤ now.toInt - since.toInt := by
  rw [Int64.le_iff_toInt_le] at hle
  rw [Int64.le_iff_toInt_le, Span.toInt_toInt64 hspan, Int64.toInt_sub] at h
  refine Int.le_trans h ?_
  have hnow := now.toInt_lt
  have hsince := since.le_toInt
  rw [Int.bmod_def]
  split <;> omega

/-- **A turn that refills the budget of a steady supervisor has earned it.** -/
theorem earned_of_resets (h : Steady done s) {r : Run} (hturn : Turns s g (r, acts))
    (hspan : (s.policy.healthyReset : Int) ≤ Int64.maxValue.toInt)
    (hclock : ∀ t ∈ done, t.signals.now ≤ g.now) (hresets : Turn.Resets ⟨s, g, r, acts⟩) :
    Earned s.policy.healthyReset done ⟨s, g, r, acts⟩ := by
  obtain ⟨hpos, s', rfl, hzero⟩ := hresets
  dsimp only at hpos
  have hsteady := h.turn hturn
  have hne : s.state.restartCount ≠ 0 := UInt32.pos_iff_ne_zero.mp hpos
  cases hturn with
  | waits _ => exact absurd hzero hne
  | fails _ _ hglances _ | passes _ _ hglances _ =>
    exact absurd (hglances.restartCount.symm.trans hzero) hne
  | restarts hcounted _ _ | unrecorded _ hcounted _ _ =>
    have hsucc := toNat_countUp hcounted.counts
    rw [← hcounted.restartCount, hzero] at hsucc
    simp at hsucc
  | refills hcontent hprobe hlasts _ _ _ hsince =>
    obtain ⟨older, first, newer, hdone, hfirst, hnow, hquiet⟩ := hsteady _ hsince
    refine ⟨⟨by simp, hprobe⟩, older, first, newer, hdone, hfirst, ?_, hquiet⟩
    rw [hnow]
    refine lasts_of_sub hspan ?_ hlasts
    have hmem : first ∈ done ++ [⟨s, g, .active s', [.probe, .save s'.state]⟩] := by simp [hdone]
    rw [← hnow]
    rcases List.mem_append.mp hmem with hold | hlast
    · exact hclock first hold
    · rw [List.mem_singleton.mp hlast]
      exact Int64.le_refl _

/-- **Every refill in a run that begins steady is earned.** -/
theorem resets_earned (h : Steady done s)
    (hspan : (s.policy.healthyReset : Int) ≤ Int64.maxValue.toInt)
    (hclock : (done.map (·.signals.now) ++ gs.map Signals.now).Pairwise (· ≤ ·)) {t : Turn}
    (htrace : (Run.active s).trace gs = earlier ++ t :: later) (hresets : t.Resets) :
    Earned s.policy.healthyReset (done ++ earlier) t := by
  induction earlier generalizing s gs done with
  | nil =>
    obtain ⟨g, gs, r, acts, rfl, rfl, hturn, -⟩ := trace_eq_cons htrace
    rw [List.append_nil]
    refine earned_of_resets h hturn hspan (fun u hu => ?_) hresets
    exact (List.pairwise_append.mp hclock).2.2 _ (List.mem_map_of_mem hu) _ (by simp)
  | cons u earlier ih =>
    obtain ⟨g, gs, r, acts, rfl, rfl, hturn, hrest⟩ := trace_eq_cons htrace
    cases r with
    | ended result => simp at hrest
    | active s₁ =>
      have hpolicy := policy_turn hturn
      have := ih (h.turn hturn) (hpolicy ▸ hspan) (by simpa using hclock) hrest
      rw [hpolicy] at this
      simpa using this

/-! ## Runs -/

/-- What the turns of a run do with a restart budget: between two refills, `most` launches at most;
before the first, at most what is `left` at the beginning; and every refill is earned. -/
structure Budgeted (most left : Nat) (lasting : Span) (trace : List Turn) : Prop where
  between : ∀ earlier stretch later, trace = earlier ++ stretch ++ later →
    (∀ t ∈ stretch, ¬ t.Resets) → relaunches stretch ≤ most
  first : ∀ earlier later, trace = earlier ++ later →
    (∀ t ∈ earlier, ¬ t.Resets) → relaunches earlier ≤ left
  earned : ∀ earlier t later, trace = earlier ++ t :: later → t.Resets → Earned lasting earlier t

/-- **The restart budget holds in every run, whatever its signals are**, on a clock that does not
go back. -/
theorem restarts_budgeted (policy : SupervisorPolicy) (state : SupervisorState) (g : Signals)
    (gs : List Signals) (hspan : (policy.healthyReset : Int) ≤ Int64.maxValue.toInt)
    (hclock : (gs.map Signals.now).Pairwise (· ≤ ·)) :
    Budgeted policy.maxRestarts.toNat
      (policy.maxRestarts.toNat - state.restartCount.toNat) policy.healthyReset
      ((({ policy, state } : Supervisor).begin g).1.trace gs) := by
  obtain ⟨-, hbegin⟩ | ⟨-, s, acts, hbegin, rfl, hcount, -, hsince, -⟩ :=
    begin_cases policy state g
  · rw [hbegin, trace_ended]
    constructor
    · intro earlier stretch later h _
      simp_all
    · intro earlier later h _
      simp_all
    · intro earlier t later h
      simp at h
  · rw [hbegin, ← hcount]
    constructor
    · intro earlier stretch later h hkeeps
      rw [List.append_assoc] at h
      obtain ⟨s', gs', hsuffix, hpolicy⟩ := trace_suffix h
      have := relaunches_le hsuffix.symm hkeeps
      rw [hpolicy] at this
      omega
    · intro earlier later h hkeeps
      exact relaunches_le h hkeeps
    · intro earlier t later h hresets
      have hsteady : Steady [] s := .of_none hsince
      exact resets_earned hsteady hspan hclock h hresets

/-- A policy of one restart, which ten milliseconds of health give back. -/
def onceInTen : SupervisorPolicy where
  probeInterval := 1
  maxProbeFailures := 1
  startupGrace := 0
  heartbeatStale := 0
  maxRestarts := 1
  healthyReset := 10
  stopGrace := 0
  versionFile := none
  stateFile := "state"

/-- The pipeline exits, is well for ten milliseconds, exits again and once more: two restarts, with
a refill between them, and then no more. -/
theorem restarts_budgeted_refilled :
    let gs := [plainSignals 1 true true, plainSignals 2 false true, plainSignals 12 false true,
      plainSignals 13 true true, plainSignals 14 true true]
    let trace := ((({ policy := onceInTen, state := {} } : Supervisor).begin
      (plainSignals 0 false true)).1.trace gs)
    (onceInTen.healthyReset : Int) ≤ Int64.maxValue.toInt ∧
      (gs.map Signals.now).Pairwise (· ≤ ·) ∧
      trace.map (fun t => launches t.acts) = [1, 0, 0, 1, 0] ∧
      trace.map (fun t => t.before.state.restartCount) = [0, 1, 1, 0, 1] ∧
      Budgeted 1 1 10 trace := by
  intro gs trace
  have hspan : (onceInTen.healthyReset : Int) ≤ Int64.maxValue.toInt := by decide
  have hclock : (gs.map Signals.now).Pairwise (· ≤ ·) := by decide
  exact ⟨hspan, hclock, rfl, rfl, restarts_budgeted onceInTen {} _ gs hspan hclock⟩

end TaskPipeline.Supervisor
