import TaskPipeline.Task.Basic

/-!
The settings, section by section, with their defaults.
-/

namespace TaskPipeline

structure AppSettings where
  name : String := "hive"
  version : Option String := none
  deriving Repr

/-- The version that runs where the settings name none. -/
def builtVersion : String := "0.1.0"

def AppSettings.runningVersion (s : AppSettings) : String := s.version.getD builtVersion

structure StoreSettings where
  backend : String := "sqlite"
  path : String := "data/hive.db"
  deriving Repr

structure DispatchSettings where
  workers : UInt64 := 4
  /-- The names of the types of task to take; none means all. -/
  taskTypes : List String := []
  pollIntervalMs : UInt64 := 2000
  claimBatch : UInt64 := 8
  heartbeatSecs : UInt64 := 30
  deriving Repr

structure ReaperSettings where
  intervalSecs : UInt64 := 60
  staleAfterSecs : UInt64 := 600
  /-- How long a task may wait for a decision; zero means for ever. -/
  decisionTtlSecs : UInt64 := 86400
  deriving Repr

structure RetrySettings where
  defaultMaxAttempts : UInt32 := 3
  /-- Attempts by the name of a type of task. -/
  maxAttemptsByType : List (String × UInt32) := []
  baseBackoffSecs : UInt64 := 5
  maxBackoffSecs : UInt64 := 300
  genericDelaySecs : UInt64 := 30
  deriving Repr

structure GatewaySettings where
  defaultTimeoutSecs : UInt64 := 1800
  deriving Repr

/-- The program that carries out one type of task. -/
structure ExecutorSettings where
  program : String
  args : List String := []
  workdir : Option String := none
  timeoutSecs : Option UInt64 := none
  deriving Repr

structure GateSettings where
  command : Option String := none
  args : List String := []
  cacheSecs : UInt64 := 60
  timeoutSecs : UInt64 := 30
  deriving Repr

structure WebSettings where
  bind : String := "127.0.0.1:8080"
  deriving Repr

structure SupervisorSettings where
  program : String := "hive"
  args : List String := []
  healthUrl : String := "http://127.0.0.1:8080/health"
  probeIntervalSecs : UInt64 := 15
  probeTimeoutSecs : UInt64 := 5
  maxProbeFailures : UInt32 := 3
  startupGraceSecs : UInt64 := 30
  heartbeatStaleSecs : UInt64 := 300
  versionFile : Option String := none
  maxRestarts : UInt32 := 5
  healthyResetSecs : UInt64 := 600
  stopGraceSecs : UInt64 := 10
  stateFile : String := "data/supervisor.json"
  deriving Repr

/-- All settings: `AppConfig`. -/
structure Settings where
  app : AppSettings := {}
  store : StoreSettings := {}
  dispatcher : DispatchSettings := {}
  reaper : ReaperSettings := {}
  retry : RetrySettings := {}
  gateway : GatewaySettings := {}
  /-- Executors by the name of a type of task. -/
  executors : List (String × ExecutorSettings) := []
  gate : GateSettings := {}
  web : WebSettings := {}
  supervisor : SupervisorSettings := {}
  deriving Repr

end TaskPipeline
