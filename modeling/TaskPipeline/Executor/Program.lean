/-!
Programs that are launched. How a host carries a program out is no part of a pipeline: whoever
launches one, an executor, the gate or the supervisor, takes what comes of it as a parameter.
-/

namespace TaskPipeline

/-- What a launch needs, as a `Command` holds it. -/
structure Program where
  name : String
  args : List String := []
  /-- The folder to run in, if it is not the one at hand. -/
  folder : Option String := none
  /-- Environment variables on top of those at hand. -/
  environment : List (String × String) := []
  deriving Repr

inductive Exit where
  | code (n : Nat)
  | signal (n : Nat)
  deriving DecidableEq, Repr

/-- What came of a program. -/
structure Ran where
  exit : Exit
  /-- Milliseconds after the launch; none if it never exits. -/
  exitsAt : Option Nat
  /-- When its streams are closed, which other processes may hold open. -/
  closesAt : Option Nat
  out : List UInt8
  err : List UInt8

end TaskPipeline
