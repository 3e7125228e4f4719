import TaskPipeline.Failure.Rule
import TaskPipeline.Pattern

/-!
Telling the category of a failure from its text. The patterns are tried in order and the first
one found in the text decides; a text that none is found in is generic.
-/

namespace TaskPipeline.Failure

open Pattern

/-- One of the marks that join words, or none. -/
def joint : Pattern := opt (one (.among [' ', '_', '-']))

def quotaPattern : Pattern := anyOf [
  "quota",
  "usage limit",
  "rate" ++ joint ++ "limit" ++ opt "ed" ++ " exceeded",
  "insufficient_quota",
  "too many requests",
  "hit your " ++ opt "usage " ++ "limit",
  "credit balance is too low"]

def providerPattern : Pattern := anyOf [
  "provider " ++ opt "is " ++ "blocked",
  "paid " ++ anyOf ["provider", "model"] ++ opt "s" ++ " " ++ anyOf ["are ", "is ", empty] ++
    anyOf ["blocked", "disabled", "not allowed"],
  "payment required",
  "billing " ++ opt "is " ++ anyOf ["required", "disabled"],
  "model override required"]

def environmentPattern : Pattern := anyOf [
  "api" ++ joint ++ "key",
  "missing " ++ anyOf ["credential", "secret", "token", "env"],
  "environment variable " ++ many .nonBlank ++ " " ++ opt "is " ++ anyOf ["not set", "missing"],
  "not set in " ++ opt "the " ++ "environment",
  "unauthorized",
  "authentication failed",
  "permission denied",
  "command not found",
  "no executor registered",
  "config" ++ opt "uration" ++ " " ++ opt "file " ++ "not found"]

def testPattern : Pattern := anyOf [
  "test result: failed",
  "test" ++ opt "s" ++ " failed",
  "failing test" ++ opt "s",
  "assertion" ++ anyOf ["error", " failed"],
  wordEdge ++ verbatim "FAILED" ++ wordEdge,
  "clippy",
  "lint" ++ opt "ing" ++ " " ++ anyOf ["error", "failed"],
  "eslint",
  "error[E" ++ one .digit ++ one .digit ++ one .digit ++ one .digit ++ "]",
  "pytest"]

def rebasePattern : Pattern := anyOf [
  "merge conflict",
  "rebase conflict",
  "CONFLICT (",
  "could not apply",
  "unmerged paths",
  "needs merge",
  "non-fast-forward"]

def networkPattern : Pattern := anyOf [
  "connection " ++ anyOf ["reset", "refused", "closed", "aborted"],
  "time" ++ opt "d" ++ opt " " ++ "out",
  "timeout",
  "network " ++ opt "is " ++ "unreachable",
  "temporarily unavailable",
  "service unavailable",
  "bad gateway",
  wordEdge ++ "dns" ++ wordEdge,
  "econnreset",
  "broken pipe",
  "tls handshake",
  wordEdge ++ "50" ++ one (.among ['2', '3', '4']) ++ wordEdge]

/-- The patterns in the order in which they are tried: `PATTERNS`. -/
def patterns : List (FailureCategory × Pattern) := [
  (.quotaExceeded, quotaPattern),
  (.paidProviderBlocked, providerPattern),
  (.envOrSecrets, environmentPattern),
  (.testOrLintFailure, testPattern),
  (.rebaseConflict, rebasePattern),
  (.flakyOrNetwork, networkPattern)]

/-- The category of a failure text: `FailureClassifier::classify`. -/
def classify (text : String) : FailureCategory :=
  ((patterns.find? fun p => p.2.foundIn text).map (·.1)).getD .generic

end TaskPipeline.Failure
