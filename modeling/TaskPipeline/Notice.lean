import TaskPipeline.Task.Codec

/-!
Notices: what is told to the outside when a task is settled or the pipeline is restarted or given
up.
-/

namespace TaskPipeline

/-- `NotifyEvent`. -/
inductive Notice where
  | taskCompleted (task : TaskId) (attemptCount : UInt32)
  | taskFailed (task : TaskId) (category : Option FailureCategory) (nextAction : Option String)
  | taskNeedsDecision (task : TaskId) (category : Option FailureCategory)
      (nextAction : Option String)
  | pipelineRestarted (reason : String) (restartCount : UInt32)
  | pipelineFatal (reason : String) (restartCount : UInt32)
  deriving DecidableEq, Repr

namespace Notice

/-- The notice about a task as it stands; none while its work goes on: `NotifyEvent::for_task`. -/
def ofTask? (t : Task) : Option Notice :=
  let nextAction := t.lastReflection.map (·.nextAction)
  match t.status with
  | .completed => some (.taskCompleted t.id t.attemptCount)
  | .failed => some (.taskFailed t.id t.lastFailureCategory nextAction)
  | .needsDecision => some (.taskNeedsDecision t.id t.lastFailureCategory nextAction)
  | .pending | .claimed | .running => none

/-- The task that a notice is about. -/
def task? : Notice → Option TaskId
  | taskCompleted t _ | taskFailed t _ _ | taskNeedsDecision t _ _ => some t
  | pipelineRestarted _ _ | pipelineFatal _ _ => none

open Json

def toJson : Notice → Json
  | taskCompleted t n =>
    .obj [("event", .str "task_completed"), ("task_id", .str t), ("attempt_count", ofUInt32 n)]
  | taskFailed t c a => aboutFailure "task_failed" t c a
  | taskNeedsDecision t c a => aboutFailure "task_needs_decision" t c a
  | pipelineRestarted r n => aboutPipeline "pipeline_restarted" r n
  | pipelineFatal r n => aboutPipeline "pipeline_fatal" r n
where
  aboutFailure (event : String) (t : TaskId) (c : Option FailureCategory) (a : Option String) :
      Json :=
    .obj [
      ("event", .str event),
      ("task_id", .str t),
      ("category", ofOption FailureCategory.toJson c),
      ("next_action", ofOption .str a)]
  aboutPipeline (event : String) (r : String) (n : UInt32) : Json :=
    .obj [("event", .str event), ("reason", .str r), ("restart_count", ofUInt32 n)]

end Notice

end TaskPipeline
