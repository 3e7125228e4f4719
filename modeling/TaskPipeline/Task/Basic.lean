import TaskPipeline.Json.Basic
import TaskPipeline.Text.Blank

/-!
Tasks: the units of work that are stored, claimed by workers and attempted until they are settled.
Instants are milliseconds in 64 signed bits.
-/

namespace TaskPipeline

abbrev TaskId := String

abbrev WorkerId := String

/-- Milliseconds since the epoch. -/
abbrev Instant := Int64

/-- Where a task stands. -/
inductive TaskStatus where
  | pending
  | claimed
  | running
  | needsDecision
  | completed
  | failed
  deriving DecidableEq, Repr

namespace TaskStatus

def all : List TaskStatus := [pending, claimed, running, needsDecision, completed, failed]

def name : TaskStatus → String
  | pending => "pending"
  | claimed => "claimed"
  | running => "running"
  | needsDecision => "needs_decision"
  | completed => "completed"
  | failed => "failed"

def ofName? (s : String) : Option TaskStatus := all.find? fun x => x.name == s

/-- A worker holds the task. -/
def isHeld : TaskStatus → Bool
  | claimed | running => true
  | _ => false

/-- No worker will touch the task until someone decides about it. -/
def isTerminal : TaskStatus → Bool
  | completed | failed | needsDecision => true
  | _ => false

end TaskStatus

/-- What kind of work a task is; it selects the executor. -/
inductive TaskType where
  | spec
  | impl
  | test
  | review
  deriving DecidableEq, Repr

namespace TaskType

def all : List TaskType := [spec, impl, test, review]

def name : TaskType → String
  | spec => "spec"
  | impl => "impl"
  | test => "test"
  | review => "review"

def ofName? (s : String) : Option TaskType := all.find? fun x => x.name == s

end TaskType

/-- Why an attempt failed. -/
inductive FailureCategory where
  | quotaExceeded
  | paidProviderBlocked
  | envOrSecrets
  | testOrLintFailure
  | rebaseConflict
  | flakyOrNetwork
  /-- The attempt exceeded its time limit. -/
  | timeout
  | generic
  deriving DecidableEq, Repr

namespace FailureCategory

def all : List FailureCategory :=
  [quotaExceeded, paidProviderBlocked, envOrSecrets, testOrLintFailure, rebaseConflict,
    flakyOrNetwork, timeout, generic]

def name : FailureCategory → String
  | quotaExceeded => "quota_exceeded"
  | paidProviderBlocked => "paid_provider_blocked"
  | envOrSecrets => "env_or_secrets"
  | testOrLintFailure => "test_or_lint_failure"
  | rebaseConflict => "rebase_conflict"
  | flakyOrNetwork => "flaky_or_network"
  | timeout => "timeout"
  | generic => "generic"

def ofName? (s : String) : Option FailureCategory := all.find? fun x => x.name == s

end FailureCategory

/-- A name that no member of an enumeration has. -/
inductive UnknownName where
  | status (s : String)
  | taskType (s : String)
  | category (s : String)
  deriving DecidableEq, Repr

def UnknownName.message : UnknownName → String
  | status s => "unknown task status '" ++ s ++ "'"
  | taskType s => "unknown task type '" ++ s ++ "'"
  | category s => "unknown failure category '" ++ s ++ "'"

/-- What was learnt from one failed attempt: `RetryReflection`. -/
structure Reflection where
  attemptNumber : UInt32
  category : FailureCategory
  /-- The assumption that did not hold. -/
  blindSpot : String
  /-- What to do about it. -/
  nextAction : String
  failureExcerpt : String
  timestamp : Instant
  deriving DecidableEq, Repr

structure Task where
  id : TaskId
  taskType : TaskType
  /-- What is to be done. -/
  direction : String
  /-- Passed on to the executor as it is. -/
  context : Option Json
  status : TaskStatus
  attemptCount : UInt32
  maxAttempts : UInt32
  lastFailureCategory : Option FailureCategory
  reflections : List Reflection
  claimedBy : Option WorkerId
  /-- Not to be claimed before this instant. -/
  nextAttemptAt : Option Instant
  /-- Withdrawn while pending, and not to be claimed any more. -/
  cancelled : Bool
  output : Option String
  createdAt : Instant
  updatedAt : Instant
  deriving Repr

/-- A request for a task. -/
structure NewTask where
  taskType : TaskType
  direction : String
  context : Option Json
  /-- The attempts asked for; absent leaves it to the settings. -/
  maxAttempts : Option UInt32
  deriving Repr

namespace Task

/-- A pending task that allows at least one attempt: `Task::new`. Its id is an argument. -/
def create (id : TaskId) (new : NewTask) (maxAttempts : UInt32) (now : Instant) : Task where
  id := id
  taskType := new.taskType
  direction := new.direction
  context := new.context
  status := .pending
  attemptCount := 0
  maxAttempts := max maxAttempts 1
  lastFailureCategory := none
  reflections := []
  claimedBy := none
  nextAttemptAt := none
  cancelled := false
  output := none
  createdAt := now
  updatedAt := now

/-- The task may be claimed now: `Task::is_claimable`. -/
def isClaimable (t : Task) (now : Instant) : Bool :=
  t.status = .pending && !t.cancelled && t.nextAttemptAt.all (· ≤ now)

def lastReflection (t : Task) : Option Reflection := t.reflections.getLast?

/-- The failures of a category so far. -/
def failuresOf (t : Task) (c : FailureCategory) : Nat :=
  (t.reflections.filter fun r => r.category = c).length

end Task

/-! ## Filters -/

/-- The page size where none is asked for. -/
def defaultPageSize : Nat := 50

def maxPageSize : Nat := 100

/-- Which tasks to list, and which page of them: `TaskFilter`. -/
structure TaskFilter where
  status : Option TaskStatus := none
  taskType : Option TaskType := none
  limit : Option UInt64 := none
  offset : UInt64 := 0
  deriving Repr

namespace TaskFilter

/-- The size of a page: what is asked for, but from one to `maxPageSize`. -/
def pageSize (f : TaskFilter) : Nat :=
  max 1 (min ((f.limit.map UInt64.toNat).getD defaultPageSize) maxPageSize)

/-- `TaskFilter::matches`. -/
def selects (f : TaskFilter) (t : Task) : Bool :=
  f.status.all (· = t.status) && f.taskType.all (· = t.taskType)

end TaskFilter

end TaskPipeline
