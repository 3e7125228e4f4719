import TaskPipeline.Executor.Program
import TaskPipeline.Span

/-!
A launched pipeline as a process of a host: whether it has exited, and how it is terminated. What
comes of a launch is a parameter. Whether the pipeline answers is asked over HTTP.
-/

namespace TaskPipeline

/-- A process on a clock that starts with it: `ChildHandle`. -/
structure PipelineProcess where
  /-- When it exits, left alone or asked at some instant to end; none if never. -/
  exits : Option Nat → Option Nat
  /-- When it was asked to end. -/
  askedAt : Option Nat := none
  /-- When it is killed. -/
  killedAt : Option Nat := none
  clock : Nat := 0

namespace PipelineProcess

/-- Launches a program, if that is possible: `ProcessLauncher::launch`. The host says what comes of
it, also where a signal to end arrives at an instant. -/
def start (launch : Program → Option Nat → Except String Ran) (p : Program) :
    Except String PipelineProcess := do
  discard (launch p none)
  return {
    exits := fun askedAt =>
      match launch p askedAt with
      | .ok r => r.exitsAt
      | .error _ => none }

def exitsAt (p : PipelineProcess) : Option Nat := (p.exits p.askedAt).merge min p.killedAt

/-- `ChildHandle::has_exited`. -/
def hasExited (p : PipelineProcess) : Bool := p.exitsAt.any (· ≤ p.clock)

/-- Waits for the exit, but not longer than a span. -/
def waitExit (p : PipelineProcess) (limit : Span) : Bool × PipelineProcess :=
  match p.exitsAt.filter (· ≤ p.clock + limit) with
  | some t => (true, { p with clock := max p.clock t })
  | none => (false, { p with clock := p.clock + limit })

/-- Asks the process to end, and kills it after a grace period: `ChildHandle::terminate`. -/
def terminate (p : PipelineProcess) (grace : Span) : PipelineProcess :=
  if p.hasExited then p
  else
    let asked := { p with askedAt := some p.clock, killedAt := some (p.clock + grace) }
    (asked.waitExit grace).2

end PipelineProcess

/-- A health probe succeeds if the pipeline answers with a status of success: `HttpHealthProbe`. At
an address of its own nobody answers. -/
def probeSucceeds (address : Option String) (status : Option Nat) : Bool :=
  address.isNone && status.any fun s => 200 ≤ s && s < 300

end TaskPipeline
