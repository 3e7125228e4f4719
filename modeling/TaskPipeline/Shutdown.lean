import TaskPipeline.Span

/-!
Shutting down: the first reason given stays, and waits end when the shutdown begins or their time
is up.
-/

namespace TaskPipeline

inductive ShutdownReason where
  | user
  | signal
  | fatal (text : String)
  deriving DecidableEq, Repr

/-- Whether and why a shutdown has begun, on a steady clock in milliseconds. -/
structure Shutdown where
  reason : Option ShutdownReason := none
  clock : Nat := 0
  deriving Repr

namespace Shutdown

def isUnderWay (s : Shutdown) : Bool := s.reason.isSome

/-- Begins the shutdown; once it has begun, nothing changes: `ShutdownManager::shutdown`. -/
def begin (s : Shutdown) (reason : ShutdownReason) : Shutdown :=
  { s with reason := s.reason <|> some reason }

/-- Waits for the shutdown, but not longer than a span: `wait_for_shutdown`. -/
def wait (s : Shutdown) (limit : Span) : Shutdown :=
  if s.isUnderWay then s else { s with clock := s.clock + limit }

/-- Waits for a component that needs a span to stop, but not longer than a limit:
`drain_with_timeout`. -/
def drain (s : Shutdown) (work limit : Span) : Shutdown :=
  { s with clock := s.clock + min work limit }

end Shutdown

end TaskPipeline
