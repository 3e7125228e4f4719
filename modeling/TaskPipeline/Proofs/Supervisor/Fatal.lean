import TaskPipeline.Proofs.Supervisor.Budget

/-!
# Giving up

A supervisor whose restart budget is exhausted declares its state fatal, hands an issue to the store
and has a last word. If the store takes the issue, that is the end of the run (`fatal_final`). If it
refuses, the run goes on as if nothing had happened, health refills the budget, and the pipeline is
launched again (`refused_not_final`). The last word is in either case the end of the run, so that a
run never has two (`lastWords_turns`).
-/

namespace TaskPipeline.Supervisor

variable {s s' : Supervisor} {g : Signals} {gs : List Signals} {acts : List SupervisorAct}

/-- Once the state is declared fatal, nothing is launched and the budget is not refilled. -/
structure FatalIsFinal (trace : List Turn) : Prop where
  atOnce : ∀ t ∈ trace, declares t.acts = true → launches t.acts = 0 ∧ ¬ t.Resets
  forGood : trace.Pairwise fun t u => declares t.acts = true → launches u.acts = 0 ∧ ¬ u.Resets

/-- Whenever the state is declared fatal the store, if there is one, takes the issue. -/
def TakesIssues (trace : List Turn) : Prop :=
  ∀ t ∈ trace, declares t.acts = true → ∀ e, t.signals.recordFatal ≠ some (.error e)

theorem TakesIssues.of_signals {r : Run}
    (h : ∀ g ∈ gs, ∀ e, g.recordFatal ≠ some (.error e)) : TakesIssues (r.trace gs) :=
  fun _ ht _ => h _ (signals_mem ht)

/-- The supervisor has given up. -/
def Run.isFatal : Run → Bool
  | .ended (.error (.fatal _)) => true
  | _ => false

@[simp] theorem lastWords_nil : lastWords [] = 0 := rfl

theorem lastWords_append (xs ys : List SupervisorAct) :
    lastWords (xs ++ ys) = lastWords xs + lastWords ys := List.countP_append

@[simp] theorem declares_append (xs ys : List SupervisorAct) :
    declares (xs ++ ys) = (declares xs || declares ys) := List.any_append

theorem turns_ended (result : Except SupervisorError Unit) (gs : List Signals) :
    (Run.ended result).turns gs = (.ended result, []) := by
  induction gs with
  | nil => rfl
  | cons g gs ih => simp [Run.turns, Run.turn, ih]

theorem turns_cons (s : Supervisor) (g : Signals) (gs : List Signals) :
    (Run.active s).turns (g :: gs) =
      ((((Run.active s).turn g).1.turns gs).1,
        ((Run.active s).turn g).2 ++ (((Run.active s).turn g).1.turns gs).2) := rfl

theorem lastWords_turn {r : Run} (h : Turns s g (r, acts)) :
    lastWords acts = if r.isFatal then 1 else 0 := by
  cases h with
  | waits _ | fails _ _ _ _ | passes _ _ _ _ | refills _ _ _ _ _ _ _ => rfl
  | restarts _ _ hacts | givesUp _ hacts | unrecorded _ _ _ hacts | uncounted hacts =>
    exact hacts.lastWords

/-- **The last word is the end of the run**, and a run that ends fatally has one. -/
theorem lastWords_turns (s : Supervisor) (gs : List Signals) :
    lastWords ((Run.active s).turns gs).2 =
      if ((Run.active s).turns gs).1.isFatal then 1 else 0 := by
  induction gs generalizing s with
  | nil => rfl
  | cons g gs ih =>
    have hturn := s.turns_turn g
    rcases hr : (Run.active s).turn g with ⟨r, acts⟩
    rw [hr] at hturn
    rw [turns_cons, hr]
    dsimp only
    rw [lastWords_append, lastWords_turn hturn]
    cases r with
    | ended result => simp [turns_ended]
    | active s' => simp [ih, Run.isFatal]

/-! ## Runs whose store takes every issue -/

/-- A turn that declares the state fatal ends the run, unless the store refuses. -/
theorem turn_declares {r : Run} (h : Turns s g (r, acts)) (hfatal : s.state.fatal = false)
    (hstore : declares acts = true → ∀ e, g.recordFatal ≠ some (.error e)) :
    (declares acts = true ∧ launches acts = 0 ∧ ∃ m, r = .ended (.error (.fatal m))) ∨
      (declares acts = false ∧ r.isFatal = false ∧
        ∀ s', r = .active s' → s'.state.fatal = false) := by
  cases h with
  | waits _ => exact .inr ⟨rfl, rfl, fun _ h => by cases h; exact hfatal⟩
  | fails _ _ hglances _ | passes _ _ hglances _ =>
    exact .inr ⟨rfl, rfl, fun _ h => by cases h; exact hglances.fatal.trans hfatal⟩
  | refills _ _ _ _ hstays _ _ =>
    have hsaved := hstays.trans hfatal
    exact .inr ⟨by simp [declares, SupervisorAct.isDeclaration, hsaved], rfl,
      fun _ h => by cases h; exact hsaved⟩
  | restarts hcounted _ hacts =>
    exact .inr ⟨hacts.declares.trans hfatal, rfl,
      fun _ h => by cases h; exact hcounted.fatal.trans hfatal⟩
  | givesUp _ hacts => exact .inl ⟨hacts.declares, hacts.launches, _, rfl⟩
  | unrecorded e _ hrecord hacts => exact absurd hrecord (hstore hacts.declares e)
  | uncounted hacts => exact .inr ⟨hacts.declares, rfl, fun _ h => by cases h⟩

/-- **If the store takes every issue, a fatal state is final.** -/
theorem fatalIsFinal_of_takesIssues (hfatal : s.state.fatal = false)
    (hstore : TakesIssues ((Run.active s).trace gs)) :
    FatalIsFinal ((Run.active s).trace gs) := by
  induction gs generalizing s with
  | nil => exact ⟨by simp, by simp⟩
  | cons g gs ih =>
    rw [trace_cons] at hstore ⊢
    obtain ⟨hnow, hlater⟩ := List.forall_mem_cons.mp hstore
    have hturn := s.turns_turn g
    rcases hr : (Run.active s).turn g with ⟨r, acts⟩
    rw [hr] at hturn hnow hlater
    obtain ⟨-, hlaunch, m, rfl⟩ | ⟨hsilent, -, hstays⟩ := turn_declares hturn hfatal hnow
    · rw [trace_ended]
      exact ⟨by simp [hlaunch, Turn.Resets], by simp⟩
    · have hrest : FatalIsFinal (r.trace gs) := by
        cases r with
        | ended result => exact ⟨by simp, by simp⟩
        | active s' => exact ih (hstays s' rfl) hlater
      exact ⟨List.forall_mem_cons.mpr ⟨by simp [hsilent], hrest.atOnce⟩,
        List.pairwise_cons.mpr ⟨by simp [hsilent], hrest.forGood⟩⟩

/-- If the store takes every issue, a run that has declared its state fatal has ended so. -/
theorem isFatal_of_declares (hfatal : s.state.fatal = false)
    (hstore : TakesIssues ((Run.active s).trace gs)) :
    ((Run.active s).turns gs).1.isFatal = declares ((Run.active s).turns gs).2 := by
  induction gs generalizing s with
  | nil => rfl
  | cons g gs ih =>
    rw [trace_cons] at hstore
    obtain ⟨hnow, hlater⟩ := List.forall_mem_cons.mp hstore
    have hturn := s.turns_turn g
    rw [turns_cons]
    rcases hr : (Run.active s).turn g with ⟨r, acts⟩
    rw [hr] at hturn hnow hlater
    obtain ⟨hdeclares, -, m, rfl⟩ | ⟨hsilent, hgoes, hstays⟩ :=
      turn_declares hturn hfatal hnow
    · simp [turns_ended, hdeclares, Run.isFatal]
    · cases r with
      | ended result => simp [turns_ended, hsilent, hgoes]
      | active s' => simp [ih (hstays s' rfl) hlater, hsilent]

/-- **If the store takes every issue, a run that declares its state fatal launches nothing more and
keeps its count of restarts; it has ended so, and with one last word.** -/
theorem fatal_final (policy : SupervisorPolicy) (state : SupervisorState) (g : Signals)
    (gs : List Signals) (hstate : state.fatal = false)
    (hstore : TakesIssues ((({ policy, state } : Supervisor).begin g).1.trace gs)) :
    let began := ({ policy, state } : Supervisor).begin g
    let ran := began.1.turns gs
    FatalIsFinal (began.1.trace gs) ∧ ran.1.isFatal = declares (began.2 ++ ran.2) ∧
      lastWords (began.2 ++ ran.2) = if ran.1.isFatal then 1 else 0 := by
  obtain ⟨hfatal, -⟩ | ⟨-, s, acts, hbegin, -, -, hfatal, -, hacts⟩ := begin_cases policy state g
  · simp [hstate] at hfatal
  · rw [hbegin] at hstore
    simp only [hbegin, declares_append, lastWords_append, hacts.declares, hacts.lastWords,
      Bool.false_or, Nat.zero_add]
    exact ⟨fatalIsFinal_of_takesIssues hfatal hstore, isFatal_of_declares hfatal hstore,
      lastWords_turns s gs⟩

/-- The pipeline exits twice, and the store takes the issue: the run is over, and nothing comes of
what would have been its next turns. -/
theorem fatal_final_exited_twice :
    let gs := [plainSignals 1 true true, plainSignals 2 true true, plainSignals 3 false true,
      plainSignals 20 false true, plainSignals 21 true true].map
        fun g => { g with recordFatal := some (.ok ()) }
    let began := ({ policy := onceInTen, state := {} } : Supervisor).begin
      (plainSignals 0 false true)
    let ran := began.1.turns gs
    TakesIssues (began.1.trace gs) ∧ (began.1.trace gs).length = 2 ∧
      declares (began.2 ++ ran.2) = true ∧ FatalIsFinal (began.1.trace gs) ∧
      ran.1.isFatal = true ∧ lastWords (began.2 ++ ran.2) = 1 := by
  intro gs began ran
  have hstore : TakesIssues (began.1.trace gs) := .of_signals (by simp [gs])
  obtain ⟨hfinal, hends, hword⟩ :=
    fatal_final onceInTen {} (plainSignals 0 false true) gs rfl hstore
  exact ⟨hstore, rfl, rfl, hfinal, rfl, hword⟩

/-- **If the store refuses the issue, a fatal state is not final**: a probe fails at the end of the
budget, and the run goes on. Probes that succeed refill the budget, and when one fails again the
pipeline is launched again. -/
theorem refused_not_final :
    let gs := [plainSignals 1 false false,
      { plainSignals 2 false false with recordFatal := some (.error .file) },
      plainSignals 3 false true, plainSignals 13 false true, plainSignals 14 false false]
    let began := ({ policy := onceInTen, state := {} } : Supervisor).begin
      (plainSignals 0 false true)
    let ran := began.1.turns gs
    declares ran.2 = true ∧ ¬ FatalIsFinal (began.1.trace gs) ∧ ran.1.isFatal = false ∧
      lastWords ran.2 = 0 := by
  intro gs began ran
  refine ⟨rfl, fun hfinal => ?_, rfl, rfl⟩
  obtain ⟨hlaunch, -⟩ := List.pairwise_iff_getElem.mp hfinal.forGood 1 4 (by decide) (by decide)
    (by decide) rfl
  exact absurd hlaunch (by decide)

end TaskPipeline.Supervisor
