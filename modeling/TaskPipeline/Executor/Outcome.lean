import TaskPipeline.Span
import TaskPipeline.Text.Blank

/-!
What comes of running a task: the report of an executor, and the outcome of an attempt.
-/

namespace TaskPipeline

/-- What an executor says about its work: `ExecutorReport`. -/
structure Report where
  success : Bool
  output : String
  error : Option String
  deriving DecidableEq, Repr

/-- How an attempt ended. -/
structure Outcome where
  success : Bool
  output : String
  error : Option String
  durationMs : UInt64
  timedOut : Bool
  deriving DecidableEq, Repr

namespace Outcome

/-- `Outcome::failed`. -/
def failed (error : String) (duration : Span) : Outcome :=
  ⟨false, "", some error, duration.toUInt64, false⟩

/-- The outcome of an attempt that was cut off at its limit: `Outcome::timed_out`. -/
def cutOff (limit : Span) : Outcome where
  success := false
  output := ""
  error := some ("executor timed out after " ++ toString limit.seconds ++ "s")
  durationMs := limit.toUInt64
  timedOut := true

/-- `Outcome::from_report`. -/
def ofReport (r : Report) (duration : Span) : Outcome :=
  ⟨r.success, r.output, r.error, duration.toUInt64, false⟩

/-- A success that comes with an error, too: `Outcome::is_ambiguous`. -/
def isAmbiguous (o : Outcome) : Bool := o.success && o.error.any fun e => !Text.isBlankText e

/-- The text that says why an attempt failed: the error, else the output. This is
`Outcome::failure_text`. -/
def failureText (o : Outcome) : String :=
  let error := Text.trim (o.error.getD "")
  let output := Text.trim o.output
  if error ≠ "" then error
  else if output ≠ "" then output
  else "executor failed without any error output"

open Json in
def toJson (o : Outcome) : Json :=
  .obj [
    ("success", .bool o.success),
    ("output", .str o.output),
    ("error", ofOption .str o.error),
    ("duration_ms", ofUInt64 o.durationMs),
    ("timed_out", .bool o.timedOut)]

end Outcome

end TaskPipeline
