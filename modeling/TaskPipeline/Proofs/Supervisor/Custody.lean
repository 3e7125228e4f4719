import TaskPipeline.Proofs.Supervisor.Turn

/-!
# One pipeline at a time, and none left behind

A supervisor has at most one pipeline in its custody. `Custody held acts held'` reads the acts of a
supervisor in order, from the pipeline it holds to the one it holds afterwards: only who holds none
may launch one, and only the one that is held is terminated. Every step of a run keeps to it
(`custody_turns`), store errors included. That is the whole argument: what has been launched is what
has been terminated and what is held (`Custody.balance`), at every moment of a run.

What a termination comes to is not asked: a supervisor lets go of the pipeline before it terminates
it, and goes on in the same way whether that works or fails.
-/

namespace TaskPipeline

/-- The pipeline that the act launches. -/
def SupervisorAct.launched : SupervisorAct → Option Child
  | launch child => some child
  | _ => none

/-- The pipeline that the act terminates. -/
def SupervisorAct.terminated : SupervisorAct → Option Child
  | terminate child _ => some child
  | _ => none

namespace Supervisor

/-- The pipelines that are launched, in order. -/
def launchedIn (acts : List SupervisorAct) : List Child := acts.filterMap SupervisorAct.launched

/-- The pipelines that are terminated, in order. -/
def terminatedIn (acts : List SupervisorAct) : List Child := acts.filterMap SupervisorAct.terminated

/-- The acts lead from one pipeline in custody, or none, to another. -/
inductive Custody : Option Child → List SupervisorAct → Option Child → Prop where
  | nil (held : Option Child) : Custody held [] held
  | launch {child : Child} {acts : List SupervisorAct} {held : Option Child} :
      Custody (some child) acts held → Custody none (.launch child :: acts) held
  | terminate {child : Child} {acts : List SupervisorAct} {held : Option Child} (grace : Span) :
      Custody none acts held → Custody (some child) (.terminate child grace :: acts) held
  | aside {act : SupervisorAct} {acts : List SupervisorAct} {held held' : Option Child} :
      act.launched = none → act.terminated = none → Custody held acts held' →
      Custody held (act :: acts) held'

namespace Custody

variable {held held' held'' : Option Child} {xs ys acts : List SupervisorAct}

theorem append (hx : Custody held xs held') (hy : Custody held' ys held'') :
    Custody held (xs ++ ys) held'' := by
  induction hx with
  | nil => exact hy
  | launch _ ih => exact .launch (ih hy)
  | terminate grace _ ih => exact .terminate grace (ih hy)
  | aside hl ht _ ih => exact .aside hl ht (ih hy)

/-- Whatever has been done, some pipeline or none is in custody. -/
theorem split (h : Custody held (xs ++ ys) held'') :
    ∃ held', Custody held xs held' ∧ Custody held' ys held'' := by
  induction xs generalizing held with
  | nil => exact ⟨held, .nil held, h⟩
  | cons act xs ih =>
    cases h with
    | launch h =>
      obtain ⟨held', hx, hy⟩ := ih h
      exact ⟨held', .launch hx, hy⟩
    | terminate grace h =>
      obtain ⟨held', hx, hy⟩ := ih h
      exact ⟨held', .terminate grace hx, hy⟩
    | aside hl ht h =>
      obtain ⟨held', hx, hy⟩ := ih h
      exact ⟨held', .aside hl ht hx, hy⟩

/-- **What was held and what is launched is what is terminated and what is held then**, in this
order. -/
theorem balance (h : Custody held acts held') :
    held.toList ++ launchedIn acts = terminatedIn acts ++ held'.toList := by
  induction h with
  | nil held => exact List.append_nil _
  | launch _ ih => exact ih
  | terminate grace _ ih => exact congrArg (_ :: ·) ih
  | aside hl ht _ ih =>
    rwa [launchedIn, terminatedIn, List.filterMap_cons_none hl, List.filterMap_cons_none ht]

/-- Who launches a pipeline holds none. -/
theorem of_launch {child : Child} (h : Custody held (.launch child :: acts) held') :
    held = none := by
  cases h with
  | launch _ => rfl
  | aside hl _ _ => cases hl

end Custody

/-- One pipeline at a time: at every moment the pipelines terminated so far are those launched so
far, in their order, but for one at most; and for none when the next is launched. -/
structure OneAtATime (acts : List SupervisorAct) : Prop where
  inOrder : ∀ done, done <+: acts → terminatedIn done <+: launchedIn done
  atMostOne : ∀ done, done <+: acts → (launchedIn done).length ≤ (terminatedIn done).length + 1
  beforeNext : ∀ done child rest, acts = done ++ .launch child :: rest →
    terminatedIn done = launchedIn done

theorem Custody.oneAtATime {acts : List SupervisorAct} {held : Option Child}
    (h : Custody none acts held) : OneAtATime acts where
  inOrder := by
    rintro done ⟨rest, rfl⟩
    obtain ⟨held', hdone, -⟩ := h.split
    exact ⟨held'.toList, hdone.balance.symm⟩
  atMostOne := by
    rintro done ⟨rest, rfl⟩
    obtain ⟨held', hdone, -⟩ := h.split
    have hlength := congrArg List.length hdone.balance
    rw [Option.toList_none, List.nil_append, List.length_append] at hlength
    have hone : held'.toList.length ≤ 1 := by cases held' <;> simp
    omega
  beforeNext := by
    rintro done child rest rfl
    obtain ⟨held', hdone, hlaunch⟩ := h.split
    rw [hlaunch.of_launch] at hdone
    simpa using hdone.balance.symm

/-! ## Every step keeps custody -/

variable {s s' : Supervisor} {g : Signals}

theorem custody_ensureRunning (s : Supervisor) (g : Signals) :
    Custody s.child (s.ensureRunning g).2 (s.ensureRunning g).1.child := by
  unfold ensureRunning
  cases hc : s.child with
  | some child => simpa [hc] using Custody.nil _
  | none =>
    cases g.launch with
    | some child => exact .launch (.nil _)
    | none => exact .aside rfl rfl (by simpa [hc] using Custody.nil _)

theorem child_terminate (s : Supervisor) : s.terminate.1.child = none := by
  unfold terminate
  cases hc : s.child with
  | some child => rfl
  | none => exact hc

theorem custody_terminate (s : Supervisor) : Custody s.child s.terminate.2 none := by
  unfold terminate
  cases s.child with
  | some child => exact .terminate _ (.nil _)
  | none => exact .nil _

/-- A step of a supervisor that keeps custody, and lets go of the pipeline if it is the last. -/
structure Keeps {α : Type} (held : Option Child)
    (out : Except SupervisorError α × Supervisor × List SupervisorAct) : Prop where
  custody : Custody held out.2.2 out.2.1.child
  fatal : ∀ message, out.1 = .error (.fatal message) → out.2.1.child = none

theorem keeps_giveUp (s : Supervisor) (reason : RestartReason) (g : Signals) :
    Keeps s.child (s.giveUp reason g) := by
  have hstop := ({ s with state := { s.state with fatal := true } } : Supervisor).custody_terminate
  have hnone := ({ s with state := { s.state with fatal := true } } : Supervisor).child_terminate
  unfold giveUp
  cases g.recordFatal with
  | none =>
    refine ⟨.aside rfl rfl (.aside rfl rfl ?_), fun _ _ => hnone⟩
    rw [hnone]
    exact hstop
  | some answer =>
    cases answer with
    | ok u =>
      refine ⟨.aside rfl rfl (.aside rfl rfl (.aside rfl rfl ?_)), fun _ _ => hnone⟩
      rw [hnone]
      exact hstop
    | error e => exact ⟨.aside rfl rfl (.nil _), fun _ h => nomatch h⟩

/-- A restart lets the old pipeline go before it launches the new one. -/
theorem keeps_restart (s : Supervisor) (reason : RestartReason) (g : Signals) :
    Keeps s.child (s.restart reason g) := by
  unfold restart
  cases hcount : countUp s.state.restartCount with
  | error e =>
    unfold countUp at hcount
    split at hcount <;> cases hcount
    exact ⟨.nil _, fun _ h => nomatch h⟩
  | ok count =>
    let counted : Supervisor := { s with
      state := { s.state with restartCount := count, healthySince := none } }
    let stopped : Supervisor := { counted.terminate.1 with
      state := { counted.state with
        lastRestartAt := some g.now, lastRestartReason := some reason.name } }
    have hnone : stopped.child = none := counted.child_terminate
    have hstart := stopped.custody_ensureRunning g
    rw [hnone] at hstart
    dsimp only
    split
    · exact counted.keeps_giveUp reason g
    · refine ⟨?_, fun _ h => nomatch h⟩
      dsimp only
      rw [List.append_assoc]
      exact counted.custody_terminate.append (.aside rfl rfl (.aside rfl rfl hstart))

/-- A look at the pipeline leaves it in custody. -/
theorem keeps_check (s : Supervisor) (g : Signals) :
    Custody s.child (s.check g).2.2 (s.check g).2.1.child ∧
      ∀ message, (s.check g).1 ≠ .error (.fatal message) := by
  have hcheck := s.checks_check g
  generalize s.check g = out at hcheck
  have hprobe : ∀ held, Custody held [.probe] held := fun held => .aside rfl rfl (.nil held)
  cases hcheck with
  | unread e | starting => exact ⟨.nil _, nofun⟩
  | condemned reason hglances => exact ⟨hglances.child ▸ .nil _, nofun⟩
  | passed _ hglances _ _ | failed _ hglances _ _ | unresponsive _ _ hglances
  | uncounted _ hglances => exact ⟨hglances.child ▸ hprobe _, nofun⟩

theorem custody_noteHealthy (s : Supervisor) (g : Signals) :
    Custody s.child (s.noteHealthy g).2 (s.noteHealthy g).1.child := by
  unfold noteHealthy
  dsimp only
  split
  · exact .aside rfl rfl (.nil _)
  · exact .nil _

theorem keeps_tick (s : Supervisor) (g : Signals) : Keeps s.child (s.tick g) := by
  obtain ⟨hlook, hfatal⟩ := s.keeps_check g
  unfold tick
  rcases hc : s.check g with ⟨verdict, s', looks⟩
  rw [hc] at hlook hfatal
  match verdict with
  | .error e => exact ⟨hlook, fun m h => absurd (by simpa using h) (hfatal m)⟩
  | .ok .starting => exact ⟨hlook, nofun⟩
  | .ok .healthy =>
    dsimp only
    split
    · exact ⟨hlook.append (s'.custody_noteHealthy g), nofun⟩
    · exact ⟨hlook, nofun⟩
  | .ok (.restart reason) =>
    obtain ⟨hacts, hlast⟩ := s'.keeps_restart reason g
    refine ⟨hlook.append hacts, fun m h => hlast m ?_⟩
    dsimp only at h
    cases hr : (s'.restart reason g).1 with
    | ok u => rw [hr] at h; cases h
    | error e => rw [hr] at h; simpa [Except.map] using h

/-! ## Runs -/

/-- What a run has in custody. A run that can count no further just stops. -/
def Run.Holds : Run → Option Child → Prop
  | .active s, held => s.child = held
  | .ended (.error .beyondCount), _ => True
  | .ended _, held => held = none

theorem custody_begin (policy : SupervisorPolicy) (state : SupervisorState) (g : Signals) :
    ∃ held, Custody none (({ policy, state } : Supervisor).begin g).2 held ∧
      (({ policy, state } : Supervisor).begin g).1.Holds held := by
  unfold begin
  split
  · exact ⟨none, .nil none, rfl⟩
  · exact ⟨_, custody_ensureRunning { policy, state } g, rfl⟩

theorem custody_turn {r : Run} {held : Option Child} (h : r.Holds held) (g : Signals) :
    ∃ held', Custody held (r.turn g).2 held' ∧ (r.turn g).1.Holds held' := by
  cases r with
  | ended result => exact ⟨held, .nil held, h⟩
  | active s =>
    obtain ⟨hacts, hfatal⟩ := s.keeps_tick g
    obtain rfl : s.child = held := h
    rcases ht : s.tick g with ⟨result, s', acts⟩
    rw [ht] at hacts hfatal
    refine ⟨s'.child, ?_⟩
    simp only [Run.turn, ht]
    rcases result with e | a
    · cases e with
      | fatal m => exact ⟨hacts, hfatal m rfl⟩
      | beyondCount => exact ⟨hacts, trivial⟩
      | store => exact ⟨hacts, rfl⟩
    · exact ⟨hacts, rfl⟩

theorem custody_turns {r : Run} {held : Option Child} (h : r.Holds held) (gs : List Signals) :
    ∃ held', Custody held (r.turns gs).2 held' ∧ (r.turns gs).1.Holds held' := by
  induction gs generalizing r held with
  | nil => exact ⟨held, .nil held, h⟩
  | cons g gs ih =>
    obtain ⟨held₁, hturn, h₁⟩ := custody_turn h g
    obtain ⟨held₂, hturns, h₂⟩ := ih h₁
    exact ⟨held₂, hturn.append hturns, h₂⟩

theorem custody_shutdown {r : Run} {held : Option Child} (h : r.Holds held) :
    ∃ held', Custody held r.shutdown.2 held' ∧ r.shutdown.1.Holds held' := by
  cases r with
  | ended result => exact ⟨held, .nil held, h⟩
  | active s =>
    obtain rfl : s.child = held := h
    exact ⟨none, s.custody_terminate.append (.aside rfl rfl (.nil none)), rfl⟩

/-- A run that is shut down holds nothing, unless it could count no further. -/
theorem Run.Holds.of_shutdown {r : Run} {held : Option Child} (h : r.shutdown.1.Holds held) :
    r.shutdown.1 = .ended (.error .beyondCount) ∨ held = none := by
  cases r with
  | active s => exact .inr h
  | ended result =>
    rcases result with e | a
    · cases e with
      | beyondCount => exact .inl rfl
      | fatal | store => exact .inr h
    · exact .inr h

/-- **At most one pipeline, and none left behind.** In every run, whatever its signals are,
pipelines are launched one at a time; and when the run is over, by shutdown or because the
supervisor has given up, every pipeline launched has been terminated, once. -/
theorem one_pipeline_at_a_time (policy : SupervisorPolicy) (state : SupervisorState) (g : Signals)
    (gs : List Signals) :
    let began := ({ policy, state } : Supervisor).begin g
    let ran := began.1.turns gs
    let closed := ran.1.shutdown
    let acts := began.2 ++ ran.2 ++ closed.2
    OneAtATime acts ∧
      (closed.1 = .ended (.error .beyondCount) ∨ terminatedIn acts = launchedIn acts) := by
  intro began ran closed acts
  obtain ⟨held, hbegan, h⟩ := custody_begin policy state g
  obtain ⟨held₁, hran, h₁⟩ := custody_turns h gs
  obtain ⟨held₂, hover, h₂⟩ := custody_shutdown h₁
  have hacts : Custody none acts held₂ := (hbegan.append hran).append hover
  refine ⟨hacts.oneAtATime, h₂.of_shutdown.imp id fun hnone => ?_⟩
  rw [hnone] at hacts
  simpa using hacts.balance.symm

end Supervisor

end TaskPipeline
