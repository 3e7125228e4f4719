import TaskPipeline.Notice
import TaskPipeline.Settings.Section
import TaskPipeline.Span
import TaskPipeline.Store.Basic
import TaskPipeline.Supervisor.State

/-!
The supervisor of the pipeline: it launches the pipeline, watches it, restarts it while the restart
budget lasts, and gives up once and for all after that. A turn takes the signals of its instant and
gives what it decided, the supervisor afterwards and what it did, in order.

| here | there |
| --- | --- |
| `Signals` | what `HealthProbe`, `PipelineHandle`, `PipelineLauncher`, `read_deployed_version` and the `TaskStore` answer in one turn |
| `SupervisorAct` | the calls of these that have an effect, `persist` and `notify` |
| `check`, `noteHealthy`, `restart`, `giveUp`, `tick` | the methods of `Supervisor` with these names |
| `judgeMarker`, `judgeProbe`, `inGrace` | the parts of `Supervisor::check` |
| `begin`, `Run.turn`, `Run.shutdown` | `Supervisor::run`: before its loop, one turn of it, and after it |
-/

namespace TaskPipeline

/-- How a supervisor supervises: `SupervisorConfig`. -/
structure SupervisorPolicy where
  probeInterval : Span
  /-- So many failed probes in a row cause a restart. -/
  maxProbeFailures : UInt32
  startupGrace : Span
  heartbeatStale : Span
  maxRestarts : UInt32
  /-- Health that lasts so long refills the restart budget. -/
  healthyReset : Span
  stopGrace : Span
  /-- The file that names the deployed version. -/
  versionFile : Option String
  stateFile : String
  deriving Repr

/-- `SupervisorConfig::from`. -/
def SupervisorPolicy.ofSettings (s : SupervisorSettings) : SupervisorPolicy where
  probeInterval := .ofSeconds (max s.probeIntervalSecs 1)
  maxProbeFailures := max s.maxProbeFailures 1
  startupGrace := .ofSeconds s.startupGraceSecs
  heartbeatStale := .ofSeconds s.heartbeatStaleSecs
  maxRestarts := s.maxRestarts
  healthyReset := .ofSeconds s.healthyResetSecs
  stopGrace := .ofSeconds s.stopGraceSecs
  versionFile := s.versionFile
  stateFile := s.stateFile

open Json in
def SupervisorPolicy.toJson (p : SupervisorPolicy) : Json :=
  .obj [
    ("probe_interval_ms", ofUInt64 p.probeInterval.toUInt64),
    ("max_probe_failures", ofUInt32 p.maxProbeFailures),
    ("startup_grace_ms", ofUInt64 p.startupGrace.toUInt64),
    ("heartbeat_stale_ms", ofUInt64 p.heartbeatStale.toUInt64),
    ("version_file", ofOption .str p.versionFile),
    ("max_restarts", ofUInt32 p.maxRestarts),
    ("healthy_reset_ms", ofUInt64 p.healthyReset.toUInt64),
    ("stop_grace_ms", ofUInt64 p.stopGrace.toUInt64),
    ("state_file", .str p.stateFile)]

/-- Why the pipeline has to be restarted. -/
inductive RestartReason where
  | notRunning
  | processExited
  | unresponsive (failures : UInt32)
  | staleVersion (running deployed : String)
  | stuck (heartbeatAge : Int64)
  deriving DecidableEq, Repr

def RestartReason.name : RestartReason → String
  | notRunning => "not_running"
  | processExited => "process_exited"
  | unresponsive _ => "unresponsive"
  | staleVersion _ _ => "stale_version"
  | stuck _ => "stuck"

open Json in
def RestartReason.toJson (r : RestartReason) : Json :=
  .obj (("reason", .str r.name) ::
    match r with
    | notRunning | processExited => []
    | unresponsive n => [("failures", ofUInt32 n)]
    | staleVersion a b => [("running", .str a), ("deployed", .str b)]
    | stuck age => [("heartbeat_age_ms", ofInt64 age)])

/-- How the pipeline looks. -/
inductive Verdict where
  | healthy
  | starting
  | restart (reason : RestartReason)
  deriving DecidableEq, Repr

/-- What a turn came to. -/
inductive TurnResult where
  | healthy
  | starting
  | restarted (reason : RestartReason)
  deriving DecidableEq, Repr

/-- `SupervisorError`, and a panic. -/
inductive SupervisorError where
  | store (cause : StoreError)
  | fatal (message : String)
  /-- Restarts or failed probes would grow beyond what can be counted. -/
  | beyondCount
  deriving DecidableEq, Repr

def SupervisorError.message : SupervisorError → String
  | store cause => cause.message
  | fatal message => "restart budget exhausted: " ++ message
  | beyondCount => "attempt to add with overflow"

/-- A launched pipeline. Its process may not be known. -/
structure Child where
  pid : Option UInt32
  deriving DecidableEq, Repr

/-- What a supervisor does. -/
inductive SupervisorAct where
  | probe
  | launch (child : Child)
  | launchFailed
  | terminate (child : Child) (grace : Span)
  | save (state : SupervisorState)
  | recordFatal (issue : FatalIssue)
  | notify (notice : Notice)
  deriving Repr

/-- Everything outside that a turn may ask about, at the instant of the turn. -/
structure Signals where
  /-- The wall clock. -/
  now : Instant
  /-- The steady clock, in milliseconds. -/
  clock : Nat
  /-- The launched pipeline has exited. -/
  exited : Bool
  probeSucceeds : Bool
  /-- What a launch gives; none if it fails. -/
  launch : Option Child
  /-- The version that is deployed, where a file tells it. -/
  deployed : Option String
  /-- What the store says about the marker. Without a store there is no marker. -/
  marker : Answer (Option PipelineMarker)
  /-- What the store says to recording a fatal issue. Without a store it is not asked. -/
  recordFatal : Option (Answer Unit)

structure Supervisor where
  policy : SupervisorPolicy
  state : SupervisorState := {}
  child : Option Child := none
  /-- When the last launch was tried, on the steady clock. -/
  launchedAt : Option Nat := none
  deriving Repr

namespace Supervisor

/-- Launches the pipeline unless it is there: `Supervisor::ensure_running`. -/
def ensureRunning (s : Supervisor) (g : Signals) : Supervisor × List SupervisorAct :=
  if s.child.isSome then (s, [])
  else
    let tried := { s with
      launchedAt := some g.clock
      state := { s.state with consecutiveProbeFailures := 0, healthySince := none } }
    match g.launch with
    | some child => ({ tried with child := some child }, [.launch child])
    | none => (tried, [.launchFailed])

/-- What a marker says about the child: nothing unless the child wrote it. -/
def judgeMarker (s : Supervisor) (child : Child) (g : Signals) (marker : PipelineMarker) :
    Supervisor × Option RestartReason :=
  if child.pid.all (· = marker.pid) then
    let s := { s with state := { s.state with lastKnownVersion := some marker.version } }
    match g.deployed with
    | some deployed =>
      if deployed ≠ marker.version then (s, some (.staleVersion marker.version deployed))
      else (s, judgeAge marker)
    | none => (s, judgeAge marker)
  else (s, none)
where
  judgeAge (marker : PipelineMarker) : Option RestartReason :=
    let age := g.now - marker.heartbeatAt
    if age > s.policy.heartbeatStale.toInt64 then some (.stuck age) else none

/-- A count with one more. -/
def countUp (n : UInt32) : Except SupervisorError UInt32 :=
  if n.toNat + 1 < UInt32.size then .ok (n + 1) else .error .beyondCount

/-- Asks the pipeline itself. -/
def judgeProbe (s : Supervisor) (g : Signals) : Except SupervisorError Verdict × Supervisor :=
  if g.probeSucceeds then
    (.ok .healthy, { s with state := { s.state with consecutiveProbeFailures := 0 } })
  else
    match countUp s.state.consecutiveProbeFailures with
    | .error e => (.error e, s)
    | .ok failures =>
      let s := { s with
        state := { s.state with consecutiveProbeFailures := failures, healthySince := none } }
      (.ok (if failures ≥ s.policy.maxProbeFailures then .restart (.unresponsive failures)
        else .healthy), s)

/-- The pipeline was launched too short a while ago to be judged. -/
def inGrace (s : Supervisor) (g : Signals) : Bool :=
  s.launchedAt.any fun t => g.clock - t < s.policy.startupGrace

/-- How the pipeline looks now: `Supervisor::check`. -/
def check (s : Supervisor) (g : Signals) :
    Except SupervisorError Verdict × Supervisor × List SupervisorAct :=
  match s.child with
  | none => (.ok (.restart .notRunning), s, [])
  | some child =>
    if g.exited then (.ok (.restart .processExited), s, [])
    else if s.inGrace g then (.ok .starting, s, [])
    else
      match g.marker with
      | .error e => (.error (.store e), s, [])
      | .ok marker =>
        let (s, reason) := match marker with
          | some m => s.judgeMarker child g m
          | none => (s, none)
        match reason with
        | some r => (.ok (.restart r), s, [])
        | none =>
          let (verdict, s) := s.judgeProbe g
          (verdict, s, [.probe])

/-- Notes that a probe succeeded, and refills the restart budget after lasting health:
`Supervisor::note_healthy`. -/
def noteHealthy (s : Supervisor) (g : Signals) : Supervisor × List SupervisorAct :=
  let since := s.state.healthySince.getD g.now
  let state : SupervisorState := { s.state with healthySince := some since }
  if state.restartCount > 0 ∧ g.now - since ≥ s.policy.healthyReset.toInt64 then
    let state := { state with restartCount := 0 }
    ({ s with state := state }, [.save state])
  else ({ s with state := state }, [])

/-- Terminates the pipeline, if there is one. -/
def terminate (s : Supervisor) : Supervisor × List SupervisorAct :=
  match s.child with
  | some child => ({ s with child := none }, [.terminate child s.policy.stopGrace])
  | none => (s, [])

/-- Gives up: the state is fatal from here on, and says so even if the store does not take it. This
is `Supervisor::give_up`, which a refusal of the store leaves half way. -/
def giveUp (s : Supervisor) (reason : RestartReason) (g : Signals) :
    Except SupervisorError Unit × Supervisor × List SupervisorAct :=
  let message := reason.name ++ " after " ++ toString (s.state.restartCount - 1).toNat ++
    " restarts (max " ++ toString s.policy.maxRestarts.toNat ++ ")"
  let state := { s.state with fatal := true }
  let s := { s with state := state }
  let issue : FatalIssue := ⟨message, state.restartCount, state.lastKnownVersion, g.now⟩
  let ending : Except SupervisorError Unit × Supervisor × List SupervisorAct :=
    let (s, stop) := s.terminate
    (.error (.fatal message), s, .notify (.pipelineFatal message state.restartCount) :: stop)
  match g.recordFatal with
  | none => (ending.1, ending.2.1, .save state :: ending.2.2)
  | some (.ok ()) => (ending.1, ending.2.1, .save state :: .recordFatal issue :: ending.2.2)
  | some (.error e) => (.error (.store e), s, [.save state])

/-- Restarts the pipeline, or gives up if the budget is exhausted: `Supervisor::restart`. -/
def restart (s : Supervisor) (reason : RestartReason) (g : Signals) :
    Except SupervisorError Unit × Supervisor × List SupervisorAct :=
  match countUp s.state.restartCount with
  | .error e => (.error e, s, [])
  | .ok count =>
    let state := { s.state with restartCount := count, healthySince := none }
    let s := { s with state := state }
    if count > s.policy.maxRestarts then s.giveUp reason g
    else
      let (s, stop) := s.terminate
      let state := { state with
        lastRestartAt := some g.now, lastRestartReason := some reason.name }
      let (s, start) := { s with state := state }.ensureRunning g
      (.ok (), s,
        stop ++ [.save state, .notify (.pipelineRestarted reason.name count)] ++ start)

/-- One turn of supervision: `Supervisor::tick`. -/
def tick (s : Supervisor) (g : Signals) :
    Except SupervisorError TurnResult × Supervisor × List SupervisorAct :=
  match s.check g with
  | (.error e, s, acts) => (.error e, s, acts)
  | (.ok .starting, s, acts) => (.ok .starting, s, acts)
  | (.ok .healthy, s, acts) =>
    if s.state.consecutiveProbeFailures = 0 then
      let (s, more) := s.noteHealthy g
      (.ok .healthy, s, acts ++ more)
    else (.ok .healthy, s, acts)
  | (.ok (.restart reason), s, acts) =>
    let (result, s, more) := s.restart reason g
    (result.map fun _ => .restarted reason, s, acts ++ more)

/-! ## Runs -/

/-- Where a run stands: under way with a supervisor, or ended with an error or none. -/
inductive Run where
  | active (s : Supervisor)
  | ended (result : Except SupervisorError Unit)

/-- What an attempt to go on after giving up comes to. -/
def clearedByHand : String :=
  "a previous run exhausted the restart budget; clear the state file to resume"

/-- Begins a run. -/
def begin (s : Supervisor) (g : Signals) : Run × List SupervisorAct :=
  if s.state.fatal then (.ended (.error (.fatal clearedByHand)), [])
  else
    let (s, acts) := s.ensureRunning g
    (.active s, acts)

/-- One turn of a run. Errors of the store pass; the run ends when the supervisor has given up or
can count no further. -/
def Run.turn (r : Run) (g : Signals) : Run × List SupervisorAct :=
  match r with
  | .ended result => (.ended result, [])
  | .active s =>
    match s.tick g with
    | (.error (.fatal message), _, acts) => (.ended (.error (.fatal message)), acts)
    | (.error .beyondCount, _, acts) => (.ended (.error .beyondCount), acts)
    | (.error (.store _), s, acts) | (.ok _, s, acts) => (.active s, acts)

/-- Shuts a run down: the pipeline is terminated and the state saved. -/
def Run.shutdown : Run → Run × List SupervisorAct
  | .ended result => (.ended result, [])
  | .active s =>
    let (s, stop) := s.terminate
    (.ended (.ok ()), stop ++ [.save s.state])

/-- A run through several turns, with everything done in it. -/
def Run.turns : Run → List Signals → Run × List SupervisorAct
  | r, [] => (r, [])
  | r, g :: gs =>
    let (r, acts) := r.turn g
    let (r, more) := r.turns gs
    (r, acts ++ more)

end Supervisor

end TaskPipeline
