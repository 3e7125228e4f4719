import TaskPipeline.Executor.Outcome
import TaskPipeline.Failure.Classify
import TaskPipeline.Settings.Section
import TaskPipeline.Task.Transition

/-!
The retry policy: what becomes of a task after an attempt, and after which delay it is tried again.
A retry needs a category that allows one, retries of that category left, and attempts left.
-/

namespace TaskPipeline

/-- `RetryConfig`, which is all that a `RetryPolicy` holds besides the classifier. -/
structure RetryPolicy where
  defaultMaxAttempts : UInt32
  maxAttemptsByType : List (TaskType × UInt32)
  baseBackoff : Span
  maxBackoff : Span
  /-- The delay after a generic failure. -/
  genericDelay : Span
  deriving Repr

namespace RetryPolicy

/-- The policy that the settings ask for: `RetryConfig::from`. Names that are no type of task are
left out. -/
def ofSettings (s : RetrySettings) : RetryPolicy where
  defaultMaxAttempts := s.defaultMaxAttempts
  maxAttemptsByType :=
    s.maxAttemptsByType.filterMap fun e => (TaskType.ofName? e.1).map fun t => (t, e.2)
  baseBackoff := .ofSeconds s.baseBackoffSecs
  maxBackoff := .ofSeconds s.maxBackoffSecs
  genericDelay := .ofSeconds s.genericDelaySecs

/-- The attempts of a new task: what is asked for, else by type, else the default; never none. This
is `max_attempts_for`. -/
def maxAttemptsFor (p : RetryPolicy) (type : TaskType) (requested : Option UInt32) : UInt32 :=
  max ((requested <|> p.maxAttemptsByType.lookup type).getD p.defaultMaxAttempts) 1

/-- The delay doubles this often at most. -/
def maxDoublings : Nat := 16

/-- The delay before the retry that follows an attempt: `delay_for`. -/
def delayFor (p : RetryPolicy) (hint : DelayHint) (attempt : UInt32) : Span :=
  match hint with
  | .immediate | .external => 0
  | .fixed => p.genericDelay
  | .backoff =>
    min (p.baseBackoff.times (Nat.pow 2 (min (attempt.toNat - 1) maxDoublings))) p.maxBackoff

/-- The reflection on a success that came with an error. -/
def ambiguity (task : Task) (outcome : Outcome) (now : Instant) : Reflection where
  attemptNumber := task.attemptCount
  category := .generic
  blindSpot :=
    "The executor reported success but also returned an error, so the result cannot be trusted"
  nextAction := "Inspect the output and resolve the task to pending or failed by hand"
  failureExcerpt := Text.excerpt (outcome.error.getD "")
  timestamp := now

/-- The category of a failed attempt. -/
def categoryOf (outcome : Outcome) : FailureCategory :=
  if outcome.timedOut then .timeout else Failure.classify outcome.failureText

/-- The reflection on a failed attempt. -/
def reflectionOn (task : Task) (outcome : Outcome) (now : Instant) : Reflection where
  attemptNumber := task.attemptCount
  category := categoryOf outcome
  blindSpot := (categoryOf outcome).rule.blindSpot
  nextAction := (categoryOf outcome).rule.nextAction
  failureExcerpt := Text.excerpt outcome.failureText
  timestamp := now

/-- The retries of the category are used up, or the attempts of the task are. -/
def isExhausted (task : Task) (category : FailureCategory) : Bool :=
  category.rule.maxRetries.any (· ≤ task.failuresOf category) ||
    task.attemptCount ≥ task.maxAttempts

/-- What becomes of a running task whose attempt has ended: `RetryPolicy::decide`. -/
def decide (p : RetryPolicy) (task : Task) (outcome : Outcome) (now : Instant) : Decision :=
  if outcome.isAmbiguous then .escalate (ambiguity task outcome now)
  else if outcome.success then .complete outcome.output
  else
    let category := categoryOf outcome
    let reflection := reflectionOn task outcome now
    if !category.rule.retryable then .fail reflection
    else if isExhausted task category then
      if category = .generic then .escalate reflection else .fail reflection
    else .retry reflection (p.delayFor category.rule.delay task.attemptCount).toInt64

open Json in
def toJson (p : RetryPolicy) : Json :=
  .obj [
    ("default_max_attempts", ofUInt32 p.defaultMaxAttempts),
    ("max_attempts_by_type", .obj (p.maxAttemptsByType.map fun e => (e.1.name, ofUInt32 e.2))),
    ("base_backoff_ms", ofUInt64 p.baseBackoff.toUInt64),
    ("max_backoff_ms", ofUInt64 p.maxBackoff.toUInt64),
    ("generic_delay_ms", ofUInt64 p.genericDelay.toUInt64)]

end RetryPolicy

end TaskPipeline
