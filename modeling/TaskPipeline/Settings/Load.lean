import TaskPipeline.Json.Record
import TaskPipeline.Settings.Environment
import TaskPipeline.Settings.File
import TaskPipeline.Settings.Section

/-!
Loading settings: the trees of the files and the environment variables are laid over each other,
and the result is read section by section. Missing settings have their defaults, unknown ones are
ignored, and a setting of the wrong kind makes the whole unreadable. Flags and numbers may stand
for texts, and texts for numbers.
-/

namespace TaskPipeline

namespace Settings

/-! ## Kinds of settings -/

def text? : Json → Option String
  | .str s => some s
  | .bool b => some (if b then "true" else "false")
  | .num (.int n) => some (toString n)
  | .num (.double bits) => some (Decimal.plain bits)
  | _ => none

/-- The number that a setting stands for, whatever its size. -/
def number? : Json → Option Int
  | .num (.int n) => some n
  | .num (.double bits) => some (Decimal.toNatWithin UInt64.size bits)
  | .bool b => some (if b then 1 else 0)
  | .str s =>
    match Text.lower s with
    | "true" | "on" | "yes" => some 1
    | "false" | "off" | "no" => some 0
    | _ => (Text.natural? UInt64.size s).map (↑·)
  | _ => none

def natBelow? (bound : Nat) (j : Json) : Option Nat := do
  let n ← number? j
  if 0 ≤ n ∧ n < bound then some n.toNat else none

def uint32? (j : Json) : Option UInt32 := (natBelow? UInt32.size j).map (UInt32.ofNat ·)

def uint64? (j : Json) : Option UInt64 := (natBelow? UInt64.size j).map (UInt64.ofNat ·)

def list? {α : Type} (read : Json → Option α) : Json → Option (List α)
  | .arr xs => xs.mapM read
  | _ => none

/-- Settings under names of their own. -/
def table? {α : Type} (read : Json → Option α) : Json → Option (List (String × α))
  | .obj ms => ms.mapM fun m => (read m.2).map fun a => (m.1, a)
  | _ => none

/-- The slots of a section. In an array, what comes after the last field does not matter. -/
def slots (fields : List String) : Json → Option Json.Slots
  | .arr xs => Json.slotsOfItems fields (xs.take fields.length)
  | j => j.slots fields

end Settings

open Settings

/-! ## Sections -/

def AppSettings.ofTree? (j : Json) : Option AppSettings := do
  let s ← slots ["name", "version"] j
  let d : AppSettings := {}
  return {
    name := ← s.withDefault "name" d.name text?
    version := ← s.withDefault "version" d.version (Json.asOption text?) }

def StoreSettings.ofTree? (j : Json) : Option StoreSettings := do
  let s ← slots ["backend", "path"] j
  let d : StoreSettings := {}
  return {
    backend := ← s.withDefault "backend" d.backend text?
    path := ← s.withDefault "path" d.path text? }

def DispatchSettings.ofTree? (j : Json) : Option DispatchSettings := do
  let s ← slots ["workers", "task_types", "poll_interval_ms", "claim_batch", "heartbeat_secs"] j
  let d : DispatchSettings := {}
  return {
    workers := ← s.withDefault "workers" d.workers uint64?
    taskTypes := ← s.withDefault "task_types" d.taskTypes (list? text?)
    pollIntervalMs := ← s.withDefault "poll_interval_ms" d.pollIntervalMs uint64?
    claimBatch := ← s.withDefault "claim_batch" d.claimBatch uint64?
    heartbeatSecs := ← s.withDefault "heartbeat_secs" d.heartbeatSecs uint64? }

def ReaperSettings.ofTree? (j : Json) : Option ReaperSettings := do
  let s ← slots ["interval_secs", "stale_after_secs", "needs_decision_ttl_secs"] j
  let d : ReaperSettings := {}
  return {
    intervalSecs := ← s.withDefault "interval_secs" d.intervalSecs uint64?
    staleAfterSecs := ← s.withDefault "stale_after_secs" d.staleAfterSecs uint64?
    decisionTtlSecs := ← s.withDefault "needs_decision_ttl_secs" d.decisionTtlSecs uint64? }

def RetrySettings.ofTree? (j : Json) : Option RetrySettings := do
  let s ← slots ["default_max_attempts", "max_attempts_by_type", "base_backoff_secs",
    "max_backoff_secs", "generic_delay_secs"] j
  let d : RetrySettings := {}
  return {
    defaultMaxAttempts := ← s.withDefault "default_max_attempts" d.defaultMaxAttempts uint32?
    maxAttemptsByType :=
      ← s.withDefault "max_attempts_by_type" d.maxAttemptsByType (table? uint32?)
    baseBackoffSecs := ← s.withDefault "base_backoff_secs" d.baseBackoffSecs uint64?
    maxBackoffSecs := ← s.withDefault "max_backoff_secs" d.maxBackoffSecs uint64?
    genericDelaySecs := ← s.withDefault "generic_delay_secs" d.genericDelaySecs uint64? }

def GatewaySettings.ofTree? (j : Json) : Option GatewaySettings := do
  let s ← slots ["default_timeout_secs"] j
  let d : GatewaySettings := {}
  return {
    defaultTimeoutSecs := ← s.withDefault "default_timeout_secs" d.defaultTimeoutSecs uint64? }

def ExecutorSettings.ofTree? (j : Json) : Option ExecutorSettings := do
  let s ← slots ["program", "args", "workdir", "timeout_secs"] j
  return {
    program := ← s.required "program" text?
    args := ← s.withDefault "args" [] (list? text?)
    workdir := ← s.optional "workdir" (Json.asOption text?)
    timeoutSecs := ← s.optional "timeout_secs" (Json.asOption uint64?) }

def GateSettings.ofTree? (j : Json) : Option GateSettings := do
  let s ← slots ["command", "args", "cache_secs", "timeout_secs"] j
  let d : GateSettings := {}
  return {
    command := ← s.withDefault "command" d.command (Json.asOption text?)
    args := ← s.withDefault "args" d.args (list? text?)
    cacheSecs := ← s.withDefault "cache_secs" d.cacheSecs uint64?
    timeoutSecs := ← s.withDefault "timeout_secs" d.timeoutSecs uint64? }

def WebSettings.ofTree? (j : Json) : Option WebSettings := do
  let s ← slots ["bind"] j
  let d : WebSettings := {}
  return { bind := ← s.withDefault "bind" d.bind text? }

def SupervisorSettings.ofTree? (j : Json) : Option SupervisorSettings := do
  let s ← slots ["program", "args", "health_url", "probe_interval_secs", "probe_timeout_secs",
    "max_probe_failures", "startup_grace_secs", "heartbeat_stale_secs", "version_file",
    "max_restarts", "healthy_reset_secs", "stop_grace_secs", "state_file"] j
  let d : SupervisorSettings := {}
  return {
    program := ← s.withDefault "program" d.program text?
    args := ← s.withDefault "args" d.args (list? text?)
    healthUrl := ← s.withDefault "health_url" d.healthUrl text?
    probeIntervalSecs := ← s.withDefault "probe_interval_secs" d.probeIntervalSecs uint64?
    probeTimeoutSecs := ← s.withDefault "probe_timeout_secs" d.probeTimeoutSecs uint64?
    maxProbeFailures := ← s.withDefault "max_probe_failures" d.maxProbeFailures uint32?
    startupGraceSecs := ← s.withDefault "startup_grace_secs" d.startupGraceSecs uint64?
    heartbeatStaleSecs := ← s.withDefault "heartbeat_stale_secs" d.heartbeatStaleSecs uint64?
    versionFile := ← s.withDefault "version_file" d.versionFile (Json.asOption text?)
    maxRestarts := ← s.withDefault "max_restarts" d.maxRestarts uint32?
    healthyResetSecs := ← s.withDefault "healthy_reset_secs" d.healthyResetSecs uint64?
    stopGraceSecs := ← s.withDefault "stop_grace_secs" d.stopGraceSecs uint64?
    stateFile := ← s.withDefault "state_file" d.stateFile text? }

namespace Settings

/-- Reads the settings in a tree. -/
def ofTree? (j : Json) : Option Settings := do
  let s ← slots ["app", "store", "dispatcher", "reaper", "retry", "executor", "executors",
    "upstream", "web", "supervisor"] j
  return {
    app := ← s.withDefault "app" {} AppSettings.ofTree?
    store := ← s.withDefault "store" {} StoreSettings.ofTree?
    dispatcher := ← s.withDefault "dispatcher" {} DispatchSettings.ofTree?
    reaper := ← s.withDefault "reaper" {} ReaperSettings.ofTree?
    retry := ← s.withDefault "retry" {} RetrySettings.ofTree?
    gateway := ← s.withDefault "executor" {} GatewaySettings.ofTree?
    executors := ← s.withDefault "executors" [] (table? ExecutorSettings.ofTree?)
    gate := ← s.withDefault "upstream" {} GateSettings.ofTree?
    web := ← s.withDefault "web" {} WebSettings.ofTree?
    supervisor := ← s.withDefault "supervisor" {} SupervisorSettings.ofTree? }

/-- Where settings come from. -/
structure Sources where
  /-- The trees of the default files that there are, the preferred one first; only one counts. -/
  defaults : List Json := []
  /-- The tree of the file that was asked for, if there is one. -/
  file : Option Json := none
  /-- The environment variables with their texts. -/
  environment : List (String × String) := []

/-- The tree of all sources: the default file, over it the file asked for, over it the
environment. There is none if a file cannot hold what it should. -/
def Sources.tree? (s : Sources) : Option Json := do
  let defaults ← s.defaults.mapM fileTree?
  let file ← s.file.toList.mapM fileTree?
  let tree := (defaults.head?.toList ++ file).foldl layOver emptyTable
  return s.environment.foldl (fun tree v => placeVariable tree v.1 v.2) tree

/-- Loads the settings; none if they cannot be read: `load_config`. -/
def load? (s : Sources) : Option Settings := do ofTree? (← s.tree?)

end Settings

end TaskPipeline
