import TaskPipeline.Json.Basic
import TaskPipeline.Settings.Section

/-!
Settings as JSON, section by section.
-/

namespace TaskPipeline

open Json

/-- All settings, with the version that runs. -/
def Settings.toJson (s : Settings) : Json :=
  let texts (xs : List String) : Json := .arr (xs.map .str)
  let uint64 (n : UInt64) : Json := ofNat n.toNat
  .obj [
    ("app", .obj [
      ("name", .str s.app.name),
      ("version", ofOption .str s.app.version),
      ("running_version", .str s.app.runningVersion)]),
    ("store", .obj [("backend", .str s.store.backend), ("path", .str s.store.path)]),
    ("dispatcher", .obj [
      ("workers", uint64 s.dispatcher.workers),
      ("task_types", texts s.dispatcher.taskTypes),
      ("poll_interval_ms", uint64 s.dispatcher.pollIntervalMs),
      ("claim_batch", uint64 s.dispatcher.claimBatch),
      ("heartbeat_secs", uint64 s.dispatcher.heartbeatSecs)]),
    ("reaper", .obj [
      ("interval_secs", uint64 s.reaper.intervalSecs),
      ("stale_after_secs", uint64 s.reaper.staleAfterSecs),
      ("needs_decision_ttl_secs", uint64 s.reaper.decisionTtlSecs)]),
    ("retry", .obj [
      ("default_max_attempts", ofUInt32 s.retry.defaultMaxAttempts),
      ("max_attempts_by_type",
        .obj (s.retry.maxAttemptsByType.map fun e => (e.1, ofUInt32 e.2))),
      ("base_backoff_secs", uint64 s.retry.baseBackoffSecs),
      ("max_backoff_secs", uint64 s.retry.maxBackoffSecs),
      ("generic_delay_secs", uint64 s.retry.genericDelaySecs)]),
    ("executor", .obj [("default_timeout_secs", uint64 s.gateway.defaultTimeoutSecs)]),
    ("executors", .obj (s.executors.map fun e => (e.1, .obj [
      ("program", .str e.2.program),
      ("args", texts e.2.args),
      ("workdir", ofOption .str e.2.workdir),
      ("timeout_secs", ofOption uint64 e.2.timeoutSecs)]))),
    ("upstream", .obj [
      ("command", ofOption .str s.gate.command),
      ("args", texts s.gate.args),
      ("cache_secs", uint64 s.gate.cacheSecs),
      ("timeout_secs", uint64 s.gate.timeoutSecs)]),
    ("web", .obj [("bind", .str s.web.bind)]),
    ("supervisor", .obj [
      ("program", .str s.supervisor.program),
      ("args", texts s.supervisor.args),
      ("health_url", .str s.supervisor.healthUrl),
      ("probe_interval_secs", uint64 s.supervisor.probeIntervalSecs),
      ("probe_timeout_secs", uint64 s.supervisor.probeTimeoutSecs),
      ("max_probe_failures", ofUInt32 s.supervisor.maxProbeFailures),
      ("startup_grace_secs", uint64 s.supervisor.startupGraceSecs),
      ("heartbeat_stale_secs", uint64 s.supervisor.heartbeatStaleSecs),
      ("version_file", ofOption .str s.supervisor.versionFile),
      ("max_restarts", ofUInt32 s.supervisor.maxRestarts),
      ("healthy_reset_secs", uint64 s.supervisor.healthyResetSecs),
      ("stop_grace_secs", uint64 s.supervisor.stopGraceSecs),
      ("state_file", .str s.supervisor.stateFile)])]

end TaskPipeline
