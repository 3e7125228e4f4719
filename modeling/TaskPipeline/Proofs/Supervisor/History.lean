import Mathlib.Data.List.DropRight
import TaskPipeline.Proofs.Supervisor.Custody

/-!
# What the history of a run shows

A run seen from outside is a list of moments: what the world was like, and what the supervisor did.
The pipeline in custody (`current`), the time of the last launch (`lastLaunch`) and the probes since
then (`probesSince`) are read off such a history, with nothing known of the supervisor. They are what
its verdicts are held against.
-/

namespace TaskPipeline

/-- The act asks the pipeline itself. -/
def SupervisorAct.isProbe : SupervisorAct → Bool
  | probe => true
  | _ => false

/-- What the store shows of the marker. -/
def Signals.seen (g : Signals) : Option PipelineMarker :=
  match g.marker with
  | .ok marker => marker
  | .error _ => none

/-- The store, if there is one, answers both questions. -/
def Signals.answered (g : Signals) : Bool :=
  match g.marker, g.recordFatal with
  | .ok _, none | .ok _, some (.ok ()) => true
  | _, _ => false

namespace Supervisor

/-- An instant of a run: what the world was like then, and what was done. -/
structure Moment where
  signals : Signals
  acts : List SupervisorAct

namespace Moment

/-- The pipeline is launched, or tried to be. -/
def launches (m : Moment) : Bool := m.acts.any SupervisorAct.isLaunch

/-- The pipeline is probed. -/
def probes (m : Moment) : Bool := m.acts.any SupervisorAct.isProbe

end Moment

def Turn.moment (t : Turn) : Moment := ⟨t.signals, t.acts⟩

/-- Everything that was done, in order. -/
def doneIn (past : List Moment) : List SupervisorAct := past.flatMap Moment.acts

/-- The pipeline that was launched and has not been terminated. -/
def current (past : List Moment) : Option Child :=
  (launchedIn (doneIn past))[(terminatedIn (doneIn past)).length]?

/-- When the last launch was tried, on the steady clock. -/
def lastLaunch (past : List Moment) : Option Nat :=
  (past.filter Moment.launches).getLast?.map (·.signals.clock)

/-- What has happened since the last launch was tried. -/
def sinceLaunch (past : List Moment) : List Moment := past.rtakeWhile fun m => !m.launches

/-- Which of the probes since the last launch succeeded, in order. -/
def probesSince (past : List Moment) : List Bool :=
  ((sinceLaunch past).filter Moment.probes).map (·.signals.probeSucceeds)

/-! ## One moment more -/

section

variable {past : List Moment} {m : Moment}

theorem Custody.current {held : Option Child} (h : Custody none (doneIn past) held) :
    current past = held := by
  have hbalance : launchedIn (doneIn past) = terminatedIn (doneIn past) ++ held.toList := h.balance
  rw [Supervisor.current, hbalance, List.getElem?_append_right (Nat.le_refl _), Nat.sub_self]
  cases held <;> rfl

end

/-! ## Streaks of failures -/

/-- The last probes, so many, all failed. -/
def FailedLast (n : Nat) (probes : List Bool) : Prop := List.replicate n false <:+ probes

instance (n : Nat) (probes : List Bool) : Decidable (FailedLast n probes) :=
  inferInstanceAs (Decidable (_ <:+ _))

theorem failedLast_zero (probes : List Bool) : FailedLast 0 probes := List.nil_suffix

theorem failedLast_nil {n : Nat} : FailedLast n [] ↔ n = 0 := by
  rw [FailedLast, List.suffix_nil, List.replicate_eq_nil_iff]

theorem failedLast_concat_true {n : Nat} {probes : List Bool} :
    FailedLast n (probes ++ [true]) ↔ n = 0 := by
  cases n with
  | zero => simp [failedLast_zero]
  | succ n =>
    rw [FailedLast, List.replicate_succ', List.suffix_concat_iff]
    simp

theorem failedLast_concat_false {n : Nat} {probes : List Bool} :
    FailedLast (n + 1) (probes ++ [false]) ↔ FailedLast n probes := by
  rw [FailedLast, FailedLast, List.replicate_succ', List.suffix_concat_iff]
  simp

/-- The length of the streak of failures with which the probes end. -/
def Streak (probes : List Bool) (length : Nat) : Prop := ∀ n, FailedLast n probes ↔ n ≤ length

namespace Streak

variable {probes : List Bool} {length : Nat}

theorem nil : Streak [] 0 := fun n => by rw [failedLast_nil, Nat.le_zero]

theorem passed : Streak (probes ++ [true]) 0 := fun n => by rw [failedLast_concat_true, Nat.le_zero]

theorem failed (h : Streak probes length) : Streak (probes ++ [false]) (length + 1)
  | 0 => by simp [failedLast_zero]
  | n + 1 => by rw [failedLast_concat_false, h n, Nat.succ_le_succ_iff]

end Streak

end Supervisor

end TaskPipeline
