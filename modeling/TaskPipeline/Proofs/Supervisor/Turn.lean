import TaskPipeline.Supervisor.Basic

/-!
# What a turn of supervision does

`Supervisor.Turns` lists every way in which a turn of a run can go, with what it leaves and what the
supervisor does in it. `turns_turn` is the only place that opens the turn; what holds of every run is
a case analysis of `Turns` and one induction over the trace.
-/

namespace TaskPipeline

/-- The act launches the pipeline, or tries to. -/
def SupervisorAct.isLaunch : SupervisorAct → Bool
  | launch _ | launchFailed => true
  | _ => false

/-- The act tells that the supervisor has given up. -/
def SupervisorAct.isLastWord : SupervisorAct → Bool
  | notify (.pipelineFatal _ _) => true
  | _ => false

/-- The act saves a state that is fatal. -/
def SupervisorAct.isDeclaration : SupervisorAct → Bool
  | save state => state.fatal
  | _ => false

namespace Supervisor

/-- What no look at the pipeline changes. -/
structure Glances (s s' : Supervisor) : Prop where
  policy : s'.policy = s.policy
  child : s'.child = s.child
  restartCount : s'.state.restartCount = s.state.restartCount
  fatal : s'.state.fatal = s.state.fatal

theorem Glances.refl (s : Supervisor) : s.Glances s := ⟨rfl, rfl, rfl, rfl⟩

/-- What a check can come to. -/
inductive Checks (s : Supervisor) (g : Signals) :
    Except SupervisorError Verdict × Supervisor × List SupervisorAct → Prop where
  | unread (e : StoreError) : Checks s g (.error (.store e), s, [])
  | starting : Checks s g (.ok .starting, s, [])
  /-- The process or the marker gives the reason. -/
  | condemned (reason : RestartReason) {s' : Supervisor} : s.Glances s' →
      Checks s g (.ok (.restart reason), s', [])
  | passed {s' : Supervisor} : g.probeSucceeds = true → s.Glances s' →
      s'.state.healthySince = s.state.healthySince → s'.state.consecutiveProbeFailures = 0 →
      Checks s g (.ok .healthy, s', [.probe])
  | failed {s' : Supervisor} : g.probeSucceeds = false → s.Glances s' →
      s'.state.healthySince = none → s'.state.consecutiveProbeFailures ≠ 0 →
      Checks s g (.ok .healthy, s', [.probe])
  | unresponsive (reason : RestartReason) {s' : Supervisor} : g.probeSucceeds = false →
      s.Glances s' → Checks s g (.ok (.restart reason), s', [.probe])
  | uncounted {s' : Supervisor} : g.probeSucceeds = false → s.Glances s' →
      Checks s g (.error .beyondCount, s', [.probe])

variable {s s' : Supervisor} {g : Signals}

theorem countUp_eq_ok {n m : UInt32} (h : countUp n = .ok m) :
    n.toNat + 1 < UInt32.size ∧ m = n + 1 := by
  unfold countUp at h
  split at h
  · next hlt => cases h; exact ⟨hlt, rfl⟩
  · cases h

theorem toNat_countUp {n m : UInt32} (h : countUp n = .ok m) : m.toNat = n.toNat + 1 := by
  obtain ⟨hlt, rfl⟩ := countUp_eq_ok h
  rw [UInt32.toNat_add]
  exact Nat.mod_eq_of_lt hlt

theorem judgeMarker_glances (s : Supervisor) (child : Child) (g : Signals)
    (marker : PipelineMarker) : s.Glances (s.judgeMarker child g marker).1 ∧
      (s.judgeMarker child g marker).1.state.healthySince = s.state.healthySince := by
  unfold judgeMarker
  split
  · split
    · dsimp only
      split <;> exact ⟨⟨rfl, rfl, rfl, rfl⟩, rfl⟩
    · exact ⟨⟨rfl, rfl, rfl, rfl⟩, rfl⟩
  · exact ⟨.refl s, rfl⟩

theorem checks_judgeProbe (hs : s.Glances s') (hsince : s'.state.healthySince =
    s.state.healthySince) (g : Signals) :
    Checks s g ((s'.judgeProbe g).1, (s'.judgeProbe g).2, [.probe]) := by
  unfold judgeProbe
  split
  · next hprobe => exact .passed hprobe ⟨hs.policy, hs.child, hs.restartCount, hs.fatal⟩ hsince rfl
  · next hprobe =>
    have hprobe : g.probeSucceeds = false := by simpa using hprobe
    cases hcount : countUp s'.state.consecutiveProbeFailures with
    | error e =>
      unfold countUp at hcount
      split at hcount <;> cases hcount
      exact .uncounted hprobe hs
    | ok failures =>
      have hne : failures ≠ 0 := by
        rintro rfl
        have := toNat_countUp hcount
        simp at this
      dsimp only
      split
      · exact .unresponsive _ hprobe ⟨hs.policy, hs.child, hs.restartCount, hs.fatal⟩
      · exact .failed hprobe ⟨hs.policy, hs.child, hs.restartCount, hs.fatal⟩ rfl hne

/-- **A check comes to one of the things that `Checks` lists.** -/
theorem checks_check (s : Supervisor) (g : Signals) : Checks s g (s.check g) := by
  unfold check
  cases s.child with
  | none => exact .condemned _ (.refl s)
  | some child =>
    dsimp only
    split
    · exact .condemned _ (.refl s)
    split
    · exact .starting
    cases g.marker with
    | error e => exact .unread e
    | ok marker =>
      cases marker with
      | none => exact checks_judgeProbe (.refl s) rfl g
      | some m =>
        obtain ⟨hglances, hsince⟩ := s.judgeMarker_glances child g m
        dsimp only
        rcases hjudge : s.judgeMarker child g m with ⟨s', reason⟩
        rw [hjudge] at hglances hsince
        cases reason with
        | some reason => exact .condemned reason hglances
        | none => exact checks_judgeProbe hglances hsince g

/-! ## Turns -/

/-- How often the pipeline is launched, or tried to be. -/
def launches (acts : List SupervisorAct) : Nat := acts.countP SupervisorAct.isLaunch

/-- How often the outside is told that the supervisor has given up. -/
def lastWords (acts : List SupervisorAct) : Nat := acts.countP SupervisorAct.isLastWord

/-- The supervisor declares its state fatal. -/
def declares (acts : List SupervisorAct) : Bool := acts.any SupervisorAct.isDeclaration

/-- The launches and last words among acts, and whether they declare the state fatal. -/
structure Tally (acts : List SupervisorAct) (launched spoken : Nat) (declared : Bool) : Prop where
  launches : launches acts = launched
  lastWords : lastWords acts = spoken
  declares : declares acts = declared

theorem Tally.nil : Tally [] 0 0 false := ⟨rfl, rfl, rfl⟩

theorem Tally.append {xs ys : List SupervisorAct} {l m v w : Nat} {a b : Bool}
    (hx : Tally xs l v a) (hy : Tally ys m w b) :
    Tally (xs ++ ys) (l + m) (v + w) (a || b) := by
  obtain ⟨rfl, rfl, rfl⟩ := hx
  obtain ⟨rfl, rfl, rfl⟩ := hy
  exact ⟨List.countP_append, List.countP_append, List.any_append⟩

theorem Tally.cons (a : SupervisorAct) {acts : List SupervisorAct} {l w : Nat} {b : Bool}
    (h : Tally acts l w b) :
    Tally (a :: acts) (l + if a.isLaunch then 1 else 0) (w + if a.isLastWord then 1 else 0)
      (a.isDeclaration || b) := by
  obtain ⟨rfl, rfl, rfl⟩ := h
  exact ⟨List.countP_cons, List.countP_cons, List.any_cons⟩

/-- Between stopping and starting the pipeline its state is saved and the outside told. -/
theorem Tally.restart {stop start : List SupervisorAct} (hstop : Tally stop 0 0 false)
    (hstart : Tally start 1 0 false) (state : SupervisorState) (reason : RestartReason)
    (count : UInt32) :
    Tally (stop ++ [.save state, .notify (.pipelineRestarted reason.name count)] ++ start) 1 0
      state.fatal := by
  have hsaid : Tally [.save state, .notify (.pipelineRestarted reason.name count)] 0 0
      state.fatal := ⟨rfl, rfl, by simp [Supervisor.declares, SupervisorAct.isDeclaration]⟩
  simpa using (hstop.append hsaid).append hstart

/-- The check of a turn asks for no restart. -/
def Content (s : Supervisor) (g : Signals) : Prop :=
  ∀ reason, (s.check g).1 ≠ .ok (.restart reason)

/-- A restart has been counted, and health forgotten. -/
structure Counted (s s' : Supervisor) (count : UInt32) (fatal : Bool) : Prop where
  counts : countUp s.state.restartCount = .ok count
  policy : s'.policy = s.policy
  restartCount : s'.state.restartCount = count
  fatal : s'.state.fatal = fatal
  healthySince : s'.state.healthySince = none

theorem Counted.of_glances {s₁ : Supervisor} {count : UInt32} {fatal : Bool}
    (h : s₁.Counted s' count fatal) (hs : s.Glances s₁) : s.Counted s' count fatal where
  counts := hs.restartCount ▸ h.counts
  policy := h.policy.trans hs.policy
  restartCount := h.restartCount
  fatal := h.fatal
  healthySince := h.healthySince

/-- What a turn of a run can come to: the run afterwards and what was done. -/
inductive Turns (s : Supervisor) (g : Signals) : Run × List SupervisorAct → Prop where
  /-- Nothing can be known about the pipeline, or it is too early to ask. -/
  | waits : s.Content g → Turns s g (.active s, [])
  | fails {s' : Supervisor} : s.Content g → g.probeSucceeds = false → s.Glances s' →
      s'.state.healthySince = none → Turns s g (.active s', [.probe])
  | passes {s' : Supervisor} : s.Content g → g.probeSucceeds = true → s.Glances s' →
      s'.state.healthySince = some (s.state.healthySince.getD g.now) →
      Turns s g (.active s', [.probe])
  /-- Health has lasted, and the restart budget is refilled. -/
  | refills {s' : Supervisor} : s.Content g → g.probeSucceeds = true →
      s.policy.healthyReset.toInt64 ≤ g.now - s.state.healthySince.getD g.now →
      s'.policy = s.policy → s'.state.fatal = s.state.fatal → s'.state.restartCount = 0 →
      s'.state.healthySince = some (s.state.healthySince.getD g.now) →
      Turns s g (.active s', [.probe, .save s'.state])
  | restarts {s' : Supervisor} {count : UInt32} {acts : List SupervisorAct} :
      s.Counted s' count s.state.fatal → count ≤ s.policy.maxRestarts →
      Tally acts 1 0 s.state.fatal → Turns s g (.active s', acts)
  /-- The budget is exhausted, and the store, if there is one, takes the issue. -/
  | givesUp {message : String} {acts : List SupervisorAct} :
      (∀ e, g.recordFatal ≠ some (.error e)) → Tally acts 0 1 true →
      Turns s g (.ended (.error (.fatal message)), acts)
  /-- The budget is exhausted, but the store does not take the issue: the run goes on. -/
  | unrecorded {s' : Supervisor} {count : UInt32} {acts : List SupervisorAct} (e : StoreError) :
      s.Counted s' count true → g.recordFatal = some (.error e) → Tally acts 0 0 true →
      Turns s g (.active s', acts)
  | uncounted {acts : List SupervisorAct} : Tally acts 0 0 false →
      Turns s g (.ended (.error .beyondCount), acts)

/-- What a restart can come to. -/
inductive Restarts (s : Supervisor) (g : Signals) :
    Except SupervisorError Unit × Supervisor × List SupervisorAct → Prop where
  | done {s' : Supervisor} {count : UInt32} {acts : List SupervisorAct} :
      s.Counted s' count s.state.fatal → count ≤ s.policy.maxRestarts →
      Tally acts 1 0 s.state.fatal → Restarts s g (.ok (), s', acts)
  | givesUp {s' : Supervisor} {message : String} {acts : List SupervisorAct} :
      (∀ e, g.recordFatal ≠ some (.error e)) → Tally acts 0 1 true →
      Restarts s g (.error (.fatal message), s', acts)
  | unrecorded {s' : Supervisor} {count : UInt32} {acts : List SupervisorAct} (e : StoreError) :
      s.Counted s' count true → g.recordFatal = some (.error e) → Tally acts 0 0 true →
      Restarts s g (.error (.store e), s', acts)
  | uncounted : Restarts s g (.error .beyondCount, s, [])

theorem terminate_cases (s : Supervisor) :
    s.terminate.1 = { s with child := none } ∧ Tally s.terminate.2 0 0 false := by
  unfold terminate
  cases hc : s.child with
  | none => exact ⟨by cases s; simp_all, .nil⟩
  | some child => exact ⟨rfl, rfl, rfl, rfl⟩

/-- Launching a pipeline that is not there forgets its health. -/
theorem ensureRunning_cases (hs : s.child = none) (g : Signals) :
    (s.ensureRunning g).1.policy = s.policy ∧
      (s.ensureRunning g).1.state.restartCount = s.state.restartCount ∧
      (s.ensureRunning g).1.state.fatal = s.state.fatal ∧
      (s.ensureRunning g).1.state.healthySince = none ∧ Tally (s.ensureRunning g).2 1 0 false := by
  unfold ensureRunning
  rw [hs]
  cases g.launch <;> exact ⟨rfl, rfl, rfl, rfl, rfl, rfl, rfl⟩

/-- A run begins with a launch, unless an earlier one has given up. -/
theorem begin_cases (policy : SupervisorPolicy) (state : SupervisorState) (g : Signals) :
    let s : Supervisor := { policy, state }
    (state.fatal = true ∧ s.begin g = (.ended (.error (.fatal clearedByHand)), [])) ∨
      (state.fatal = false ∧ ∃ s' acts, s.begin g = (.active s', acts) ∧ s'.policy = policy ∧
        s'.state.restartCount = state.restartCount ∧ s'.state.fatal = false ∧
        s'.state.healthySince = none ∧ Tally acts 1 0 false) := by
  intro s
  unfold begin
  cases hfatal : s.state.fatal with
  | true => exact .inl ⟨rfl, rfl⟩
  | false =>
    obtain ⟨hpolicy, hcount, hstays, hsince, hacts⟩ := ensureRunning_cases (s := s) rfl g
    exact .inr ⟨rfl, _, _, rfl, hpolicy, hcount, hstays.trans hfatal, hsince, hacts⟩

/-- The last word comes after the store has taken the issue. -/
theorem restarts_giveUp {count : UInt32} (h : s.Counted s' count s.state.fatal)
    (reason : RestartReason) (g : Signals) : Restarts s g (s'.giveUp reason g) := by
  obtain ⟨-, hterm⟩ :=
    ({ s' with state := { s'.state with fatal := true } } : Supervisor).terminate_cases
  unfold giveUp
  rcases hstop : ({ s' with state := { s'.state with fatal := true } } : Supervisor).terminate with
    ⟨stopped, stop⟩
  rw [hstop] at hterm
  simp only [hstop]
  cases hrecord : g.recordFatal with
  | none => exact .givesUp (by simp [hrecord]) ((hterm.cons _).cons _)
  | some answer =>
    cases answer with
    | ok u => exact .givesUp (by simp [hrecord]) (((hterm.cons _).cons _).cons _)
    | error e =>
      exact .unrecorded e ⟨h.counts, h.policy, h.restartCount, rfl, h.healthySince⟩ hrecord
        (Tally.nil.cons _)

/-- **A restart comes to one of the things that `Restarts` lists.** -/
theorem restarts_restart (s : Supervisor) (reason : RestartReason) (g : Signals) :
    Restarts s g (s.restart reason g) := by
  unfold restart
  cases hcount : countUp s.state.restartCount with
  | error e =>
    unfold countUp at hcount
    split at hcount <;> cases hcount
    exact .uncounted
  | ok count =>
    dsimp only
    split
    · apply restarts_giveUp
      exact ⟨hcount, rfl, rfl, rfl, rfl⟩
    · next hle =>
      obtain ⟨hstopped, hstop⟩ := ({ s with
        state := { s.state with restartCount := count, healthySince := none } } :
          Supervisor).terminate_cases
      rcases hterm : ({ s with
        state := { s.state with restartCount := count, healthySince := none } } :
          Supervisor).terminate with ⟨stopped, stop⟩
      rw [hterm] at hstopped hstop
      dsimp only at hstopped
      subst hstopped
      dsimp only
      obtain ⟨hpolicy, hrestarts, hfatal, hsince, hstart⟩ :=
        ensureRunning_cases (s := { s with
          state := { s.state with
            restartCount := count, healthySince := none, lastRestartAt := some g.now,
            lastRestartReason := some reason.name }
          child := none }) rfl g
      exact .done ⟨hcount, hpolicy, hrestarts, hfatal, hsince⟩ (UInt32.not_lt.mp hle)
        (hstop.restart hstart _ reason count)

/-- A successful probe begins the time of health or goes on with it, and may refill the budget. -/
theorem turns_noteHealthy (hcontent : s.Content g) (hprobe : g.probeSucceeds = true)
    (hglances : s.Glances s') (hsince : s'.state.healthySince = s.state.healthySince) :
    Turns s g (.active (s'.noteHealthy g).1, .probe :: (s'.noteHealthy g).2) := by
  unfold noteHealthy
  dsimp only
  rw [hsince]
  split
  · next hlasts =>
    rw [hglances.policy] at hlasts
    exact .refills hcontent hprobe hlasts.2 hglances.policy hglances.fatal rfl rfl
  · exact .passes hcontent hprobe
      ⟨hglances.policy, hglances.child, hglances.restartCount, hglances.fatal⟩ rfl

/-- A turn whose check asks for a restart comes to what the restart comes to. -/
theorem turns_restart (hglances : s.Glances s') {looks : List SupervisorAct}
    (hlooks : Tally looks 0 0 false) (reason : RestartReason)
    (hcheck : s.check g = (.ok (.restart reason), s', looks)) :
    Turns s g ((Run.active s).turn g) := by
  have hrestart := s'.restarts_restart reason g
  simp only [Run.turn, tick, hcheck]
  rcases hr : s'.restart reason g with ⟨result, s'', acts⟩
  rw [hr] at hrestart
  simp only
  cases hrestart with
  | done hcounted hle hacts =>
    rw [hglances.fatal] at hcounted hacts
    rw [hglances.policy] at hle
    exact .restarts (hcounted.of_glances hglances) hle (by simpa using hlooks.append hacts)
  | givesUp hrecord hacts => exact .givesUp hrecord (hlooks.append hacts)
  | unrecorded e hcounted hrecord hacts =>
    exact .unrecorded e (hcounted.of_glances hglances) hrecord (hlooks.append hacts)
  | uncounted => exact .uncounted (hlooks.append .nil)

/-- **A turn of a run comes to one of the things that `Turns` lists.** -/
theorem turns_turn (s : Supervisor) (g : Signals) : Turns s g ((Run.active s).turn g) := by
  have hcheck := s.checks_check g
  rcases hc : s.check g with ⟨verdict, s', looks⟩
  rw [hc] at hcheck
  have hcontent : (∀ reason, verdict ≠ .ok (.restart reason)) → s.Content g := by
    intro h reason
    rw [hc]
    exact h reason
  cases hcheck with
  | condemned reason hglances => exact turns_restart hglances ⟨rfl, rfl, rfl⟩ reason hc
  | unresponsive reason _ hglances => exact turns_restart hglances ⟨rfl, rfl, rfl⟩ reason hc
  | unread e =>
    simp only [Run.turn, tick, hc]
    exact .waits (hcontent nofun)
  | starting =>
    simp only [Run.turn, tick, hc]
    exact .waits (hcontent nofun)
  | uncounted _ _ =>
    simp only [Run.turn, tick, hc]
    exact .uncounted ⟨rfl, rfl, rfl⟩
  | failed hprobe hglances hsince hne =>
    simp only [Run.turn, tick, hc, if_neg hne]
    exact .fails (hcontent nofun) hprobe hglances hsince
  | passed hprobe hglances hsince hzero =>
    simp only [Run.turn, tick, hc, if_pos hzero]
    exact turns_noteHealthy (hcontent nofun) hprobe hglances hsince

/-! ## Traces -/

/-- A turn that was taken. -/
structure Turn where
  before : Supervisor
  signals : Signals
  after : Run
  acts : List SupervisorAct

/-- The turns that a run takes until it ends or the signals do. -/
def Run.trace : Run → List Signals → List Turn
  | .active s, g :: gs =>
    let turn := (Run.active s).turn g
    ⟨s, g, turn.1, turn.2⟩ :: turn.1.trace gs
  | _, _ => []

@[simp] theorem trace_nil (r : Run) : r.trace [] = [] := by cases r <;> rfl

@[simp] theorem trace_ended (result : Except SupervisorError Unit) (gs : List Signals) :
    (Run.ended result).trace gs = [] := by
  unfold Run.trace
  rfl

theorem trace_cons (s : Supervisor) (g : Signals) (gs : List Signals) :
    (Run.active s).trace (g :: gs) =
      ⟨s, g, ((Run.active s).turn g).1, ((Run.active s).turn g).2⟩ ::
        ((Run.active s).turn g).1.trace gs := rfl

/-- The first turn of a trace is one that `Turns` lists, and the rest goes on from there. -/
theorem trace_eq_cons {gs : List Signals} {t : Turn} {rest : List Turn}
    (h : (Run.active s).trace gs = t :: rest) :
    ∃ g gs' r acts, gs = g :: gs' ∧ t = ⟨s, g, r, acts⟩ ∧ Turns s g (r, acts) ∧
      r.trace gs' = rest := by
  cases gs with
  | nil => simp at h
  | cons g gs =>
    rw [trace_cons] at h
    obtain ⟨ht, hrest⟩ := List.cons_eq_cons.mp h
    exact ⟨g, gs, _, _, rfl, ht.symm, s.turns_turn g, hrest⟩

/-- What is done in a run is what is done in its turns. -/
theorem turns_acts (r : Run) (gs : List Signals) :
    (r.turns gs).2 = (r.trace gs).flatMap Turn.acts := by
  induction gs generalizing r with
  | nil => simp [Run.turns]
  | cons g gs ih =>
    cases r with
    | ended result => simp [Run.turns, Run.turn, ih]
    | active s => simp [Run.turns, trace_cons, ih]

theorem signals_mem {r : Run} {gs : List Signals} {t : Turn} (h : t ∈ r.trace gs) :
    t.signals ∈ gs := by
  induction gs generalizing r with
  | nil => simp at h
  | cons g gs ih =>
    cases r with
    | ended result => simp at h
    | active s =>
      rw [trace_cons] at h
      rcases List.mem_cons.mp h with rfl | h
      · exact List.mem_cons_self
      · exact List.mem_cons_of_mem _ (ih h)

/-- The policy of a run never changes. -/
theorem policy_turn {acts : List SupervisorAct} (h : Turns s g (.active s', acts)) :
    s'.policy = s.policy := by
  cases h with
  | waits _ => rfl
  | fails _ _ hglances _ | passes _ _ hglances _ => exact hglances.policy
  | refills _ _ _ hpolicy _ _ _ => exact hpolicy
  | restarts hcounted _ _ | unrecorded _ hcounted _ _ => exact hcounted.policy

/-- What is left of a trace is a trace under the same policy. -/
theorem trace_suffix {gs : List Signals} {earlier later : List Turn}
    (h : (Run.active s).trace gs = earlier ++ later) :
    ∃ s' gs', later = (Run.active s').trace gs' ∧ s'.policy = s.policy := by
  induction earlier generalizing s gs with
  | nil => exact ⟨s, gs, h.symm, rfl⟩
  | cons t earlier ih =>
    obtain ⟨g, gs, r, acts, rfl, rfl, hturn, hrest⟩ := trace_eq_cons h
    cases r with
    | ended result =>
      rw [trace_ended] at hrest
      obtain ⟨-, rfl⟩ := List.append_eq_nil_iff.mp hrest.symm
      exact ⟨s, [], rfl, rfl⟩
    | active s₁ =>
      obtain ⟨s', gs', hlater, hpolicy⟩ := ih hrest
      exact ⟨s', gs', hlater, hpolicy.trans (policy_turn hturn)⟩

/-- An instant at which every launch works, there is neither a deployed version nor a store, and
the pipeline has exited or answers its probe, or not. -/
def plainSignals (now : Instant) (exited probeSucceeds : Bool) : Signals where
  now
  clock := 0
  exited
  probeSucceeds
  launch := some ⟨some 1⟩
  deployed := none
  marker := .ok none
  recordFatal := none

end Supervisor

end TaskPipeline
