import TaskPipeline.Json.Parser
import TaskPipeline.Json.Printer
import TaskPipeline.Json.Record
import TaskPipeline.Task.Transition

/-!
Tasks, reflections, decisions and requests for tasks as JSON records.
-/

namespace TaskPipeline

open Json

namespace TaskStatus

def toJson (s : TaskStatus) : Json := .str s.name

def ofJson? : Json → Option TaskStatus := asName ofName?

end TaskStatus

namespace TaskType

def toJson (t : TaskType) : Json := .str t.name

def ofJson? : Json → Option TaskType := asName ofName?

end TaskType

namespace FailureCategory

def toJson (c : FailureCategory) : Json := .str c.name

def ofJson? : Json → Option FailureCategory := asName ofName?

end FailureCategory

namespace Reflection

def toJson (r : Reflection) : Json :=
  .obj [
    ("attempt_number", ofUInt32 r.attemptNumber),
    ("failure_category", r.category.toJson),
    ("blind_spot", .str r.blindSpot),
    ("next_action", .str r.nextAction),
    ("failure_excerpt", .str r.failureExcerpt),
    ("timestamp", ofInt64 r.timestamp)]

def fields : List String :=
  ["attempt_number", "failure_category", "blind_spot", "next_action", "failure_excerpt",
    "timestamp"]

def ofJson? (j : Json) : Option Reflection := do
  let s ← j.slots fields
  return {
    attemptNumber := ← s.required "attempt_number" asUInt32
    category := ← s.required "failure_category" FailureCategory.ofJson?
    blindSpot := ← s.required "blind_spot" asString
    nextAction := ← s.required "next_action" asString
    failureExcerpt := ← s.required "failure_excerpt" asString
    timestamp := ← s.required "timestamp" asInt64 }

/-- The reflections of a task as one text. -/
def listText (rs : List Reflection) : String := (Json.arr (rs.map toJson)).toText

def ofListText? (s : String) : Option (List Reflection) := do
  asList ofJson? (← Json.parse? s)

end Reflection

namespace Task

def toJson (t : Task) : Json :=
  .obj <| [
    ("id", .str t.id),
    ("task_type", t.taskType.toJson),
    ("direction", .str t.direction)] ++
    (match t.context with
      | some c => [("context", c)]
      | none => []) ++ [
    ("status", t.status.toJson),
    ("attempt_count", ofUInt32 t.attemptCount),
    ("max_attempts", ofUInt32 t.maxAttempts),
    ("last_failure_category", ofOption FailureCategory.toJson t.lastFailureCategory),
    ("retry_reflections", .arr (t.reflections.map Reflection.toJson)),
    ("claimed_by", ofOption .str t.claimedBy),
    ("next_attempt_at", ofOption ofInt64 t.nextAttemptAt),
    ("cancelled", .bool t.cancelled),
    ("output", ofOption .str t.output),
    ("created_at", ofInt64 t.createdAt),
    ("updated_at", ofInt64 t.updatedAt)]

def fields : List String :=
  ["id", "task_type", "direction", "context", "status", "attempt_count", "max_attempts",
    "last_failure_category", "retry_reflections", "claimed_by", "next_attempt_at", "cancelled",
    "output", "created_at", "updated_at"]

def ofJson? (j : Json) : Option Task := do
  let s ← j.slots fields
  return {
    id := ← s.required "id" asString
    taskType := ← s.required "task_type" TaskType.ofJson?
    direction := ← s.required "direction" asString
    context := ← s.withDefault "context" none (asOption asFreeForm)
    status := ← s.required "status" TaskStatus.ofJson?
    attemptCount := ← s.required "attempt_count" asUInt32
    maxAttempts := ← s.required "max_attempts" asUInt32
    lastFailureCategory :=
      ← s.optional "last_failure_category" (asOption FailureCategory.ofJson?)
    reflections := ← s.withDefault "retry_reflections" [] (asList Reflection.ofJson?)
    claimedBy := ← s.optional "claimed_by" (asOption asString)
    nextAttemptAt := ← s.withDefault "next_attempt_at" none (asOption asInt64)
    cancelled := ← s.withDefault "cancelled" false asBool
    output := ← s.optional "output" (asOption asString)
    createdAt := ← s.required "created_at" asInt64
    updatedAt := ← s.required "updated_at" asInt64 }

end Task

namespace NewTask

def toJson (n : NewTask) : Json :=
  .obj [
    ("task_type", n.taskType.toJson),
    ("direction", .str n.direction),
    ("context", n.context.getD .null),
    ("max_attempts", ofOption ofUInt32 n.maxAttempts)]

def fields : List String := ["task_type", "direction", "context", "max_attempts"]

def ofJson? (j : Json) : Option NewTask := do
  let s ← j.slots fields
  return {
    taskType := ← s.required "task_type" TaskType.ofJson?
    direction := ← s.required "direction" asString
    context := ← s.withDefault "context" none (asOption asFreeForm)
    maxAttempts := ← s.withDefault "max_attempts" none (asOption asUInt32) }

end NewTask

namespace Decision

def kind : Decision → String
  | complete _ => "complete"
  | retry _ _ => "retry"
  | fail _ => "fail"
  | escalate _ => "escalate"

/-- A decision with the status that it leads to. -/
def toJson (d : Decision) : Json :=
  .obj (("kind", .str d.kind) ::
    (match d with
      | complete output => [("output", .str output)]
      | retry _ delay => [("delay_ms", ofInt64 delay)]
      | fail _ | escalate _ => []) ++
    [("reflection", ofOption Reflection.toJson d.reflection?), ("target", d.target.toJson)])

end Decision

end TaskPipeline
