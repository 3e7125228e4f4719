import TaskPipeline.Executor.Outcome
import TaskPipeline.Task.Basic

/-!
Executors: what carries out tasks. An executor is known by how long each of its launches takes and
how it ends, which may depend on the launches before and on the task. A launch need not end.
-/

namespace TaskPipeline

/-- How a launch ends. -/
inductive Ending where
  | report (r : Report)
  /-- The launch fails, with causes from the outermost to the innermost. -/
  | unreachable (causes : List String)
  /-- The executor breaks down, with a message if it has one. -/
  | panicked (message : Option String)
  deriving DecidableEq, Repr

namespace Ending

/-- The outcome of an attempt that ended this way, after a span: what `ExecutorGateway::run` makes of
the result of a launch that ended in time. -/
def outcome (e : Ending) (duration : Span) : Outcome :=
  match e with
  | report r => .ofReport r duration
  | unreachable causes => .failed ("executor unreachable: " ++ ": ".intercalate causes) duration
  | panicked message =>
    .failed ("executor panicked: " ++ message.getD "non-string panic payload") duration

end Ending

/-- What implements `Executor`, known by its launches. -/
structure Executor where
  name : String
  /-- How long a launch takes, by its number; none if it never ends. -/
  duration : Nat → Task → Option Span
  /-- How a launch ends, by its number and by how many launches ended before. -/
  ending : Nat → Nat → Task → Ending
  launched : Nat := 0
  ended : Nat := 0

namespace Executor

/-- One entry of a script: a pause and an ending that may mention the task. -/
structure Line where
  pause : Span
  ending : Task → Ending

/-- An executor that goes through its lines launch by launch and stays with the last one. -/
def ofLines (name : String) (first : Line) (rest : List Line) : Executor where
  name := name
  duration n _ := some ((first :: rest)[n]?.getD ((first :: rest).getLast (by simp))).pause
  ending n _ task := ((first :: rest)[n]?.getD ((first :: rest).getLast (by simp))).ending task

/-- An executor that hands out reports in turn as launches end, and after them a fallback:
`ScriptedExecutor`. -/
def ofReports (name : String) (reports : List Report) (fallback : Report) (pause : Span) :
    Executor where
  name := name
  duration _ _ := some pause
  ending _ k _ := .report (reports[k]?.getD fallback)

end Executor

/-- The executors and time limits of the types of task: `ExecutorRegistry`. -/
structure Registry where
  executors : List (TaskType × Executor) := []
  limits : List (TaskType × Span) := []

namespace Registry

/-- Puts a value under a key, over what is there. -/
def put {α β : Type} [DecidableEq α] (key : α) (value : β) : List (α × β) → List (α × β)
  | [] => [(key, value)]
  | (k, v) :: rest => if k = key then (key, value) :: rest else (k, v) :: put key value rest

def register (r : Registry) (type : TaskType) (e : Executor) : Registry :=
  { r with executors := put type e r.executors }

def setLimit (r : Registry) (type : TaskType) (limit : Span) : Registry :=
  { r with limits := put type limit r.limits }

def executor? (r : Registry) (type : TaskType) : Option Executor := r.executors.lookup type

/-- The types that have an executor. -/
def types (r : Registry) : List TaskType := TaskType.all.filter fun t => (r.executor? t).isSome

end Registry

end TaskPipeline
