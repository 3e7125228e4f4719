import TaskPipeline.Task.Basic

/-!
How each category of failure is handled: what went wrong, what to do, whether and how often to try
again, and after which delay.
-/

namespace TaskPipeline

/-- Which delay precedes a retry. -/
inductive DelayHint where
  | immediate
  /-- Doubling with each attempt. -/
  | backoff
  | fixed
  /-- Until something outside changes; no retry of its own accord. -/
  | external
  deriving DecidableEq, Repr

def DelayHint.name : DelayHint → String
  | immediate => "immediate"
  | backoff => "backoff"
  | fixed => "fixed"
  | external => "external"

/-- `CategoryRule`. -/
structure FailureRule where
  blindSpot : String
  nextAction : String
  retryable : Bool
  /-- How many retries the category gets over the life of a task; none leaves it to the budget. -/
  maxRetries : Option Nat
  delay : DelayHint
  deriving DecidableEq, Repr

/-- The rule of a category: `rule_for`, with the table `CATEGORY_RULES`. -/
def FailureCategory.rule : FailureCategory → FailureRule
  | quotaExceeded =>
    ⟨"Assumed the provider had usage quota left for this window",
      "Wait for the usage window to reset before retrying; do not retry immediately",
      false, some 0, .external⟩
  | paidProviderBlocked =>
    ⟨"Assumed the configured provider or model was allowed for this task",
      "Switch the executor or set a model override, then retry",
      true, none, .immediate⟩
  | envOrSecrets =>
    ⟨"Assumed the executor environment had every credential and config it needs",
      "Fix the missing environment variable, secret or config; no automatic retry",
      false, some 0, .external⟩
  | testOrLintFailure =>
    ⟨"Assumed the change satisfied the test suite and linters",
      "Retry once with the failing test or lint output as a targeted fix hint",
      true, some 1, .immediate⟩
  | rebaseConflict =>
    ⟨"Assumed the working branch was still based on the current upstream",
      "Rebase onto the latest upstream, resolve conflicts and retry",
      true, none, .immediate⟩
  | flakyOrNetwork =>
    ⟨"Assumed the network and remote services were stable during the attempt",
      "Retry with exponential backoff",
      true, none, .backoff⟩
  | timeout =>
    ⟨"Assumed the work fits inside the per-attempt time limit",
      "Retry with backoff; split the task or raise the executor timeout if it repeats",
      true, none, .backoff⟩
  | generic =>
    ⟨"The failure matched no known pattern, so its cause is unverified",
      "Retry once, then escalate to needs_decision for a human look",
      true, some 1, .fixed⟩

open Json in
/-- A category with its rule. -/
def FailureCategory.ruleJson (c : FailureCategory) : Json :=
  .obj [
    ("category", .str c.name),
    ("blind_spot", .str c.rule.blindSpot),
    ("next_action", .str c.rule.nextAction),
    ("retryable", .bool c.rule.retryable),
    ("max_retries", ofOption Json.ofNat c.rule.maxRetries),
    ("delay", .str c.rule.delay.name)]

end TaskPipeline
