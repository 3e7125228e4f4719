import TaskPipeline.Proofs.Dispatch.Drain

/-!
# Drains of a pipeline

A drain of a pipeline in which nobody else acts gives each poll enough steps to come to its end, and
enough polls to find no work in the end. So it is a drain that is given all its turns (`drain_eq`).
-/

namespace TaskPipeline

/-! ## The steps of a poll, counted -/

namespace Poll

/-- How many steps a poll that works alone has before it, if no attempt lasts for more than so many
signs of life. -/
def stepsLeft (signs interval : Nat) : Poll → Nat
  | gating => signs + 9
  | querying => signs + 8
  | claiming _ => signs + 7
  | starting _ => signs + 6
  | launching _ => signs + 5
  | attempting a beat => (a.overAt + interval - 1 - beat) / interval + 4
  | settling _ _ => 2
  | telling _ => 1
  | ended _ | crashed => 0

/-- No step changes a time limit. -/
theorem maxLimit_step (p : DispatchPolicy) (worker : WorkerId) (c : Clocks) (poll : Poll)
    (w : Workplace) : (poll.step p worker c w).2.gateway.maxLimit = w.gateway.maxLimit := by
  rcases gateway_step p worker c poll w with hsame | ⟨t, _, hlaunch⟩ | ⟨a, _, _, hfinish⟩
  · rw [hsame]
  · rw [hlaunch, Gateway.maxLimit_launch]
  · rw [hfinish, Gateway.maxLimit_finish]

end Poll

namespace Drain

variable {d : Drain} {n : Nat}

/-- Each step of a poll leaves it fewer. -/
theorem Alone.fewer (h : d.Alone) {signs : Nat} (hover : (d.poll n).isOver = false)
    (hsigns : (d.turns n).place.gateway.maxLimit / d.policy.heartbeatInterval ≤ signs) :
    (d.poll (n + 1)).stepsLeft signs d.policy.heartbeatInterval <
      (d.poll n).stepsLeft signs d.policy.heartbeatInterval := by
  have hready := h.ready n
  have hleads := h.leads n
  have hturns := h.turns hready
  have hdue := h.due n
  have hinterval : 0 < d.policy.heartbeatInterval := Nat.pos_of_ne_zero h.heartbeat
  generalize d.poll n = poll at hturns hleads hover hdue
  generalize d.poll (n + 1) = poll' at hturns ⊢
  cases hturns with
  | again => cases hover
  | goes hended hn hgoes =>
    generalize d.left n = w' at hgoes
    cases hgoes with
    | loses hv hshut =>
      -- Nobody is there who could have taken the candidate away.
      cases hshut.symm.trans (hleads.claimable_head hready hv)
    | @launches r a _ _ _ _ hend =>
      have hlimit := Nat.le_trans hend (Nat.add_le_add_left (Gateway.limitOf_le _ _) _)
      refine Nat.add_lt_add_right (Nat.lt_succ_of_le (Nat.le_trans ?_ hsigns)) 4
      exact Nat.div_le_div_right (by omega)
    | @waits a beat hend hbeat =>
      have := hdue _ rfl
      omega
    | @signs a beat _ _ hend hbeat =>
      have hnext : a.overAt + d.policy.heartbeatInterval - 1 - beat =
          a.overAt + d.policy.heartbeatInterval - 1 - (beat + d.policy.heartbeatInterval) +
            d.policy.heartbeatInterval := by omega
      rw [Poll.stepsLeft, Poll.stepsLeft, hnext, Nat.add_div_right _ hinterval]
      exact Nat.add_lt_add_right (Nat.lt_succ_self _) 4
    | finishes => exact Nat.lt_of_lt_of_le (by decide : 2 < 4) (Nat.le_add_left _ _)
    | rests | lies => cases hover
    | _ => simp only [Poll.stepsLeft]; omega

end Drain

namespace Pipeline

variable {p : Pipeline} {policy : DispatchPolicy} {worker : WorkerId}

section Idle

variable (hidle : p.actors = [])

include hidle

theorem maxLimit_drains (n : Nat) :
    ((p.drains policy worker).turns n).place.gateway.maxLimit = p.place.gateway.maxLimit := by
  induction n with
  | zero => rfl
  | succ n ih =>
    rw [place_drains hidle, Drain.left, Poll.maxLimit_step, ih]

/-- A poll that is given its steps comes to its end. -/
theorem finishPoll_drains (h : (p.drains policy worker).Alone) {fuel : Nat} (n : Nat)
    (hfuel : ((p.drains policy worker).poll n).stepsLeft
      (p.place.gateway.maxLimit / policy.heartbeatInterval) policy.heartbeatInterval < fuel) :
    ∃ m, ((p.drains policy worker).poll m).isOver = true ∧
      (p.drains policy worker).attempts m = (p.drains policy worker).attempts n ∧
      finishPoll policy worker fuel ((p.drains policy worker).poll n)
        (p.draining policy worker n).2 =
          (((p.drains policy worker).poll m).answer?, (p.draining policy worker m).2) := by
  induction fuel generalizing n with
  | zero => exact absurd hfuel (Nat.not_lt_zero _)
  | succ fuel ih =>
    cases hover : ((p.drains policy worker).poll n).isOver with
    | true => exact ⟨n, hover, rfl, finishPoll_over hover fuel⟩
    | false =>
      have hended : (p.drains policy worker).poll n ≠ .ended true := by
        intro he
        rw [he] at hover
        cases hover
      have hfewer := h.fewer hover (Nat.le_of_eq (by rw [maxLimit_drains hidle]))
      obtain ⟨m, hm, hattempts, hfinish⟩ := ih (n + 1)
        (Nat.lt_of_lt_of_le hfewer (Nat.le_of_lt_succ hfuel))
      have hsame : (p.drains policy worker).attempts (n + 1) = _ :=
        congrArg Prod.snd (Drain.state_goes hended)
      refine ⟨m, hm, hattempts.trans hsame, ?_⟩
      rw [finishPoll_visit hover, ← draining_goes hended, hfinish]

/-- A poll is given the steps that it needs. -/
theorem stepsLeft_lt_pollBound {n : Nat} (hgating : (p.drains policy worker).poll n = .gating) :
    ((p.drains policy worker).poll n).stepsLeft
      (p.place.gateway.maxLimit / policy.heartbeatInterval) policy.heartbeatInterval <
        (p.draining policy worker n).2.pollBound policy := by
  have hlimit : (p.draining policy worker n).2.place.gateway.maxLimit =
      p.place.gateway.maxLimit := by
    rw [← maxLimit_drains hidle n]
    exact congrArg (·.gateway.maxLimit) (wait_idle (actors_draining hidle n) _).1.symm
  have hbound : (p.draining policy worker n).2.pollBound policy =
      (p.draining policy worker n).2.place.gateway.maxLimit / policy.heartbeatInterval +
        (p.draining policy worker n).2.place.store.size + 12 := rfl
  rw [hgating, hbound, hlimit, Nat.add_assoc]
  exact Nat.add_lt_add_left (by omega) _

/-- Polls that are enough find no work in the end. -/
theorem drainUpTo_drains (h : (p.drains policy worker).Alone) {fuel : Nat} (n : Nat)
    (hgating : (p.drains policy worker).poll n = .gating)
    (hfuel : p.place.store.grants policy.taskTypes < (p.drains policy worker).attempts n + fuel) :
    ∃ m, ((p.drains policy worker).poll m = .ended false ∨
        (p.drains policy worker).poll m = .crashed) ∧
      (p.drains policy worker).attempts m = (p.drains policy worker).attempts n +
        (drainUpTo policy worker fuel (p.draining policy worker n).2).1 ∧
      (drainUpTo policy worker fuel (p.draining policy worker n).2).2 =
        (p.draining policy worker m).2 := by
  induction fuel generalizing n with
  | zero =>
    have hbound : _ ≤ p.place.store.grants policy.taskTypes := h.bound n
    omega
  | succ fuel ih =>
    obtain ⟨m, hover, hsame, hfinish⟩ := finishPoll_drains hidle h n
      (stepsLeft_lt_pollBound hidle hgating)
    rw [hgating] at hfinish
    have hpoll : (p.draining policy worker n).2.poll policy worker = _ := hfinish
    rw [← hsame] at hfuel ⊢
    rw [drainUpTo, hpoll]
    cases hm : (p.drains policy worker).poll m with
    | ended ran =>
      cases ran with
      | false => exact ⟨m, .inl hm, rfl, rfl⟩
      | true =>
        have hgating : (p.drains policy worker).poll (m + 1) = .gating :=
          congrArg Prod.fst (Drain.state_again hm)
        have hattempts : (p.drains policy worker).attempts (m + 1) = _ :=
          congrArg Prod.snd (Drain.state_again hm)
        obtain ⟨l, hl, hsum, hleft⟩ := ih (m + 1) hgating (by omega)
        rw [draining_again hm] at hsum hleft
        exact ⟨l, hl, by rw [hsum, hattempts]; simp only [Poll.answer?]; omega, hleft⟩
    | crashed => exact ⟨m, .inr hm, rfl, rfl⟩
    | _ => rw [hm] at hover; cases hover

/-- **A drain of a pipeline without actors is a drain that is given all its turns.** -/
theorem drain_eq (h : (p.drains policy worker).Alone) :
    ∃ n, ((p.drains policy worker).poll n = .ended false ∨
        (p.drains policy worker).poll n = .crashed) ∧
      p.drain policy worker =
        ((p.drains policy worker).attempts n, (p.draining policy worker n).2) := by
  have hbudget := Store.grants_le_budget policy.taskTypes p.place.store
  have hfuel : p.place.store.grants policy.taskTypes < 0 + (budget p.place.store + 1) := by omega
  obtain ⟨n, hn, hattempts, hleft⟩ := drainUpTo_drains hidle h 0 rfl hfuel
  refine ⟨n, hn, Prod.ext ?_ hleft⟩
  rw [hattempts]
  exact (Nat.zero_add _).symm

end Idle

end Pipeline

end TaskPipeline
