import TaskPipeline.Executor.Program
import TaskPipeline.Settings.Section
import TaskPipeline.Span

/-!
The gate in front of new work, `CommandGate`: a program says whether new work may begin. Its verdict
is kept for a while; without a program the gate is open, as `AlwaysHealthy` is. What comes of a
launch is a parameter, over the states of a host.
-/

namespace TaskPipeline

structure Gate where
  program : Option Program
  /-- How long a verdict is kept. -/
  cacheTtl : Span
  /-- How long the program may take. -/
  timeout : Span
  /-- The last verdict and when it was given. -/
  cached : Option (Nat × Bool) := none

namespace Gate

/-- The gate of the settings: `create_gate`. -/
def ofSettings (s : GateSettings) : Gate where
  program := s.command.map fun c => { name := c, args := s.args }
  cacheTtl := .ofSeconds s.cacheSecs
  timeout := .ofSeconds (max s.timeoutSecs 1)

/-- What a program says: the verdict, how long it takes, and the host afterwards (`run_check`). -/
def ask {σ : Type} (launch : σ → Program → Except String (Ran × σ)) (p : Program) (timeout : Span)
    (host : σ) : Bool × Span × σ :=
  match launch host p with
  | .error _ => (false, 0, host)
  | .ok (r, host) =>
    match r.closesAt.filter (· ≤ timeout) with
    | some t => (r.exit = .code 0, t, host)
    | none => (false, timeout, host)

/-- The verdict that is still good, if there is one. -/
def kept (g : Gate) (clock : Nat) : Option Bool :=
  (g.cached.filter fun c => clock - c.1 < g.cacheTtl).map (·.2)

/-- Asks whether new work may begin, as `is_healthy` does: the verdict, and the gate, the host and
the clock after. -/
def check {σ : Type} (launch : σ → Program → Except String (Ran × σ)) (g : Gate) (host : σ)
    (clock : Nat) : Bool × Gate × σ × Nat :=
  match g.program with
  | none => (true, g, host, clock)
  | some p =>
    match g.kept clock with
    | some mayBegin => (mayBegin, g, host, clock)
    | none =>
      let (mayBegin, span, host) := ask launch p g.timeout host
      (mayBegin, { g with cached := some (clock + span, mayBegin) }, host, clock + span)

end Gate

end TaskPipeline
