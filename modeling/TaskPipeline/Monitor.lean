import TaskPipeline.Decimal
import TaskPipeline.Span
import TaskPipeline.Store
import TaskPipeline.Version

/-!
Reports on a store: how much work succeeds, and which issues are open, the most severe first.
-/

namespace TaskPipeline

/-! ## Effectiveness -/

/-- `EffectivenessReport`. -/
structure Effectiveness where
  windowHours : UInt32
  /-- The tasks completed within the window. -/
  throughput : Nat
  completed : Nat
  failed : Nat
  /-- The share of completed tasks among the completed and failed ones, if there are any, as the
  bits of a double. -/
  successRate : Option UInt64
  byStatus : List (TaskStatus × Nat)
  /-- The categories that occur. -/
  byCategory : List (FailureCategory × Nat)
  deriving DecidableEq, Repr

namespace Effectiveness

def hourMs : Int64 := 3600000

/-- `effectiveness_of`. -/
def of (tasks : List Task) (windowHours : UInt32) (now : Instant) : Effectiveness :=
  let start := now - Int64.ofNat windowHours.toNat * hourMs
  let countOf (s : TaskStatus) := tasks.countP fun t => t.status = s
  let completed := countOf .completed
  let failed := countOf .failed
  { windowHours := windowHours
    throughput := tasks.countP fun t => t.status = .completed && t.updatedAt ≥ start
    completed := completed
    failed := failed
    successRate :=
      if completed + failed = 0 then none else some (Decimal.ratio completed (completed + failed))
    byStatus := TaskStatus.all.map fun s => (s, countOf s)
    byCategory := FailureCategory.all.filterMap fun c =>
      let n := tasks.countP fun t => t.lastFailureCategory = some c
      if n = 0 then none else some (c, n) }

end Effectiveness

/-! ## Issues -/

inductive IssueKind where
  | pipelineFatal
  | stalePipelineVersion
  | needsDecision
  | repeatedQuotaExceeded
  | repeatedEnvOrSecrets
  | stuckClaims
  deriving DecidableEq, Repr

namespace IssueKind

def all : List IssueKind :=
  [pipelineFatal, stalePipelineVersion, needsDecision, repeatedQuotaExceeded,
    repeatedEnvOrSecrets, stuckClaims]

def name : IssueKind → String
  | pipelineFatal => "pipeline_fatal"
  | stalePipelineVersion => "stale_pipeline_version"
  | needsDecision => "needs_decision"
  | repeatedQuotaExceeded => "repeated_quota_exceeded"
  | repeatedEnvOrSecrets => "repeated_env_or_secrets"
  | stuckClaims => "stuck_claims"

def severity : IssueKind → Nat
  | pipelineFatal => 100
  | stalePipelineVersion => 80
  | needsDecision => 60
  | repeatedEnvOrSecrets => 50
  | repeatedQuotaExceeded => 40
  | stuckClaims => 30

end IssueKind

structure Issue where
  kind : IssueKind
  count : Nat
  summary : String
  /-- The first of the tasks concerned. -/
  tasks : List TaskId
  deriving DecidableEq, Repr

namespace Issue

/-- How many tasks an issue names at most: `MAX_LISTED_TASKS`. -/
def maxListed : Nat := 20

def severity (i : Issue) : Nat := i.kind.severity

/-- An issue about some tasks, with a summary that begins with their number: `OpenIssue::new`. -/
def about (kind : IssueKind) (tasks : List Task) (what : String) : Issue where
  kind := kind
  count := tasks.length
  summary := toString tasks.length ++ " task(s) " ++ what
  tasks := (tasks.take maxListed).map (·.id)

/-- An issue about at least so many tasks. -/
def whenAtLeast (n : Nat) (kind : IssueKind) (tasks : List Task) (what : String) : List Issue :=
  if n ≤ tasks.length then [about kind tasks what] else []

/-- The last failure of several unfinished tasks has one category. -/
def repeated (kind : IssueKind) (category : FailureCategory) (tasks : List Task) : List Issue :=
  whenAtLeast 2 kind
    (tasks.filter fun t => t.status ≠ .completed && t.lastFailureCategory = some category)
    ("last failed with " ++ category.name)

/-- The held tasks without a sign of life for longer than a span. -/
def stuck (tasks : List Task) (staleAfter : Span) (now : Instant) : List Task :=
  tasks.filter fun t => t.status.isHeld && t.updatedAt < now - staleAfter.toInt64

/-- The issues with tasks, in no order of weight: `task_issues`. -/
def ofTasks (tasks : List Task) (staleAfter : Span) (now : Instant) : List Issue :=
  whenAtLeast 1 .needsDecision (tasks.filter fun t => t.status = .needsDecision)
    "waiting for a decision" ++
  repeated .repeatedQuotaExceeded .quotaExceeded tasks ++
  repeated .repeatedEnvOrSecrets .envOrSecrets tasks ++
  whenAtLeast 1 .stuckClaims (stuck tasks staleAfter now)
    ("held without progress for over " ++ toString staleAfter.seconds ++ "s")

def ofFatal (f : FatalIssue) : Issue where
  kind := .pipelineFatal
  count := 1
  summary :=
    "supervisor gave up after " ++ toString f.restartCount.toNat ++ " restarts: " ++ f.reason
  tasks := []

/-- The marker names another version than the one deployed. -/
def ofVersions (marker : PipelineMarker) (deployed : Option String) : List Issue :=
  match deployed with
  | none => []
  | some d =>
    if d = marker.version then []
    else [⟨.stalePipelineVersion, 1,
      "running " ++ marker.version ++ " but " ++ d ++ " is deployed", []⟩]

/-- The more severe first, and of equal ones the more frequent: `rank`. -/
def rank (issues : List Issue) : List Issue :=
  issues.mergeSort fun a b =>
    b.severity < a.severity || (a.severity = b.severity && b.count ≤ a.count)

end Issue

/-- What a monitor goes by. -/
structure Monitor where
  staleAfter : Span
  /-- The version that is deployed, where a file tells it. -/
  deployed : Option String

namespace Monitor

/-- `Monitor::effectiveness`. -/
def effectiveness (s : Store) (windowHours : UInt32) (now : Instant) : Answer Effectiveness := do
  return Effectiveness.of (← s.snapshot) windowHours now

/-- All open issues, the most severe first: `Monitor::open_issues`. -/
def issues (m : Monitor) (s : Store) (now : Instant) : Answer (List Issue) := do
  let tasks ← s.snapshot
  let fatal ← s.fatalIssue
  let marker ← s.readMarker
  return Issue.rank <|
    (fatal.map Issue.ofFatal).toList ++
    (marker.map fun k => Issue.ofVersions k m.deployed).getD [] ++
    Issue.ofTasks tasks m.staleAfter now

end Monitor

end TaskPipeline
