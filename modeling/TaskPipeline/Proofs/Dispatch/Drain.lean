import TaskPipeline.Proofs.Dispatch.Spending

/-!
# A drain comes to its end

A drain polls until a poll finds no work. Each poll that runs a task uses up one of the attempts
that are granted, so a drain that is the only one to work on its store comes to its end, after no
more attempts than were granted at its beginning, and it leaves nothing behind that it could run
(`drain_leaves_nothing`).
-/

namespace TaskPipeline

open Pipeline (readable)

/-! ## Drains -/

/-- A drain by a worker, by the turns that it gets. -/
structure Drain where
  policy : DispatchPolicy
  worker : WorkerId
  turns : Nat → Turn

namespace Drain

/-- Where the drain stands at a turn: its poll, and how many polls before that ran a task. -/
def state (d : Drain) : Nat → Poll × Nat
  | 0 => (.gating, 0)
  | n + 1 =>
    match d.state n with
    | (.ended true, attempts) => (.gating, attempts + 1)
    | (poll, attempts) =>
      ((poll.step d.policy d.worker (d.turns n).clocks (d.turns n).place).1, attempts)

def poll (d : Drain) (n : Nat) : Poll := (d.state n).1

/-- The polls before a turn that ran a task. -/
def attempts (d : Drain) (n : Nat) : Nat := (d.state n).2

/-- The workplace as the drain leaves it at a turn. -/
def left (d : Drain) (n : Nat) : Workplace :=
  ((d.poll n).step d.policy d.worker (d.turns n).clocks (d.turns n).place).2

/-- The store as the drain finds it at a turn. -/
def store (d : Drain) (n : Nat) : Store := (d.turns n).place.store

/-- The wall clock at a turn. -/
def now (d : Drain) (n : Nat) : Instant := (d.turns n).clocks.now

/-- Nobody but the drain works on the store, no call on the store fails, and the clock does not go
back. The drain gets its turns when it has something to do. -/
structure Alone (d : Drain) : Prop where
  keyed : (d.store 0).Keyed
  answers : ∀ n, d.poll n = .querying → ∃ ts,
    (d.store n).claimable d.policy.taskTypes d.policy.claimBatch (d.now n) = .ok ts
  counts : ∀ t ∈ readable (d.store 0), t.attemptCount.toNat + 1 < UInt32.size
  batch : d.policy.claimBatch ≠ 0
  heartbeat : d.policy.heartbeatInterval ≠ 0
  store : ∀ n, d.store (n + 1) = (d.left n).store
  clock : ∀ n, d.now n ≤ d.now (n + 1)
  delays : ∀ n, (d.turns n).place.policy.Fits (d.now n)
  due : ∀ n, (d.poll n).Due (d.turns n).clocks

/-- At a turn of the poll that goes on the drain asked for tasks. -/
def Asked (d : Drain) (n m : Nat) : Prop :=
  m < n ∧ d.poll m = .querying ∧ d.attempts m = d.attempts n

/-- The task is the first of those that were open to the drain when its poll asked. -/
def Chose (d : Drain) (n : Nat) (t : Task) : Prop :=
  ∃ m v, d.Asked n m ∧ v.id = t.id ∧
    Task.Foremost (·.isOpenTo d.policy.taskTypes (d.now m)) (readable (d.store m)) v

/-- No task was open to the drain when its poll asked, and no task has changed since. -/
def Emptied (d : Drain) (n : Nat) : Prop :=
  ∃ m, d.Asked n m ∧ d.store m = d.store n ∧
    ∀ t ∈ readable (d.store m), t.isOpenTo d.policy.taskTypes (d.now m) = false

/-- The gate was shut for the poll. -/
def Shut (d : Drain) (n : Nat) : Prop :=
  ∃ m < n, d.poll m = .gating ∧ d.attempts m = d.attempts n ∧ (d.turns m).place.gateOpen = false

/-- The gate broke down. -/
def Broke (d : Drain) (n : Nat) : Prop :=
  ∃ m < n, d.poll m = .gating ∧ (d.turns m).place.gatePanics ≠ 0

end Drain

/-! ## Turns of a drain -/

namespace Drain

variable {d : Drain} {n m : Nat} {t : Task}

/-- Where a drain stands after a turn. -/
inductive Turns (d : Drain) (n : Nat) : Poll → Poll → Prop where
  /-- The poll has run a task, and the next one begins. -/
  | again : d.attempts (n + 1) = d.attempts n + 1 → d.left n = (d.turns n).place →
      Turns d n (.ended true) .gating
  | goes {poll poll' : Poll} : poll ≠ .ended true → d.attempts (n + 1) = d.attempts n →
      Poll.Goes d.policy d.worker (d.turns n).clocks (d.turns n).place poll poll' (d.left n) →
      Turns d n poll poll'

theorem state_again (h : d.poll n = .ended true) :
    d.state (n + 1) = (.gating, d.attempts n + 1) := by
  have hs : d.state n = (.ended true, d.attempts n) := Prod.ext h rfl
  rw [state, hs]

theorem state_goes (h : d.poll n ≠ .ended true) : d.state (n + 1) =
    (((d.poll n).step d.policy d.worker (d.turns n).clocks (d.turns n).place).1,
      d.attempts n) := by
  rw [state]
  split
  · next hs => exact absurd (congrArg Prod.fst hs) h
  · next hs => simp only [Drain.poll, Drain.attempts, hs]

theorem Alone.turns (h : d.Alone) (hr : (d.poll n).Ready d.worker (d.store n)) :
    d.Turns n (d.poll n) (d.poll (n + 1)) := by
  by_cases hended : d.poll n = .ended true
  · have hpoll : d.poll (n + 1) = .gating := congrArg Prod.fst (state_again hended)
    have hattempts : d.attempts (n + 1) = _ := congrArg Prod.snd (state_again hended)
    rw [hended, hpoll]
    exact .again hattempts (by rw [left, hended]; rfl)
  · have hpoll : d.poll (n + 1) = _ := congrArg Prod.fst (state_goes hended)
    have hattempts : d.attempts (n + 1) = _ := congrArg Prod.snd (state_goes hended)
    rw [hpoll]
    exact .goes hended hattempts
      (Poll.goes_step hr.keyed hr.backed hr.claimed fun _ _ _ => h.delays n)

/-- At each turn the poll can rely on what a poll that works alone relies on. -/
theorem Alone.ready (h : d.Alone) (n : Nat) : (d.poll n).Ready d.worker (d.store n) := by
  induction n with
  | zero =>
    refine ⟨h.keyed, trivial, fun t ht _ => h.counts t (h.keyed.mem_readable.mpr ht), ?_⟩
    rintro t ⟨⟩
  | succ n ih =>
    rw [h.store n]
    have hturns := h.turns ih
    generalize d.poll n = poll at hturns ih
    generalize d.poll (n + 1) = poll' at hturns
    cases hturns with
    | again _ hleft =>
      rw [hleft]
      refine ⟨ih.keyed, trivial, ih.waiting, ?_⟩
      rintro t ⟨⟩
    | goes _ _ hgoes => exact hgoes.ready ih

/-! ## What a poll finds -/

/-- The candidates are what the store answers when the poll asks, and nothing has changed since. -/
def Lined (d : Drain) (n : Nat) (ts : List Task) : Prop :=
  ∃ m, d.Asked n m ∧ d.store m = d.store n ∧ d.now m ≤ d.now n ∧
    (d.store m).claimable d.policy.taskTypes d.policy.claimBatch (d.now m) = .ok ts

/-- What a drain has found when its poll stands there. -/
def Leads (d : Drain) (n : Nat) : Poll → Prop
  | .claiming ts => d.Lined n ts
  | .ended false => d.Shut n ∨ d.Emptied n
  | .crashed => d.Broke n
  | poll => ∀ t, poll.hand? = some t → d.Chose n t

theorem Asked.succ (h : d.Asked n m) (hn : d.attempts (n + 1) = d.attempts n) :
    d.Asked (n + 1) m := ⟨Nat.lt_succ_of_lt h.1, h.2.1, h.2.2.trans hn.symm⟩

theorem Chose.succ {u : Task} (h : d.Chose n t) (hn : d.attempts (n + 1) = d.attempts n)
    (hid : u.id = t.id) : d.Chose (n + 1) u := by
  obtain ⟨m, v, hasked, hv, hforemost⟩ := h
  exact ⟨m, v, hasked.succ hn, hv.trans hid.symm, hforemost⟩

/-- A candidate can still be claimed, as when the poll asked. -/
theorem Lined.claimable_head {rest : List Task} {v : Task} (h : d.Lined n (t :: rest))
    (hr : (d.poll n).Ready d.worker (d.store n)) (hv : (d.store n).task? t.id = some v) :
    v.isClaimable (d.now n) = true := by
  obtain ⟨m, _, hstore, hnow, hts⟩ := h
  rw [hstore] at hts
  obtain ⟨hfound, hopen⟩ := Store.mem_claimable hr.keyed hts List.mem_cons_self
  cases hv.symm.trans hfound
  exact Task.isClaimable_later (Bool.and_eq_true_iff.mp hopen).1 hnow

/-- The first candidate is the first of those that were open. -/
theorem Lined.chose {rest : List Task} (h : d.Lined n (t :: rest)) {u : Task} (hid : u.id = t.id)
    (hn : d.attempts (n + 1) = d.attempts n) : d.Chose (n + 1) u := by
  obtain ⟨m, hasked, _, _, hts⟩ := h
  obtain ⟨left, hline, _⟩ := Store.claimable_line hts
  exact ⟨m, t, hasked.succ hn, hid.symm, Task.foremost_of_byAge hline⟩

/-- Without a candidate no task was open. -/
theorem Lined.emptied (h : d.Lined n []) (ha : d.Alone) (hn : d.attempts (n + 1) = d.attempts n)
    (hstore : d.store (n + 1) = d.store n) : d.Emptied (n + 1) := by
  obtain ⟨m, hasked, hsame, _, hts⟩ := h
  obtain ⟨left, hline, hleft⟩ := Store.claimable_line hts
  rw [hleft ha.batch rfl] at hline
  exact ⟨m, hasked.succ hn, hsame.trans hstore.symm, Task.none_of_byAge hline⟩

theorem Alone.leads_succ (h : d.Alone) (hl : d.Leads n (d.poll n)) :
    d.Leads (n + 1) (d.poll (n + 1)) := by
  have hready := h.ready n
  have hturns := h.turns hready
  have hstore := h.store n
  generalize hpoll : d.poll n = poll at hturns hl
  generalize d.poll (n + 1) = poll' at hturns ⊢
  cases hturns with
  | again => rintro t ⟨⟩
  | goes hended hn hgoes =>
    generalize hleft : d.left n = w' at hgoes
    rw [hleft] at hstore
    cases hgoes with
    | breaks hpanics =>
      exact ⟨n, Nat.lt_succ_self n, hpoll, by rw [hpanics]; exact Nat.succ_ne_zero _⟩
    | refused hshut => exact .inl ⟨n, Nat.lt_succ_self n, hpoll, hn.symm, hshut⟩
    | admitted | tells => rintro t ⟨⟩
    | finds hts =>
      exact ⟨n, ⟨Nat.lt_succ_self n, hpoll, hn.symm⟩, hstore.symm, h.clock n, hts⟩
    | errs herr =>
      obtain ⟨ts, hts⟩ := h.answers n hpoll
      cases hts.symm.trans herr
    | leaves => exact .inr (hl.emptied h hn hstore)
    | loses hv hshut =>
      cases hshut.symm.trans (hl.claimable_head hready hv)
    | @wins t v _ _ hv =>
      have hid : v.id = t.id := Store.id_of_task? hv
      rintro t ⟨⟩
      exact hl.chose hid hn
    | starts _ hm =>
      rintro t ⟨⟩
      exact (hl _ rfl).succ hn hm.keeps.1
    | launches _ htask =>
      rintro t ⟨⟩
      exact (hl _ rfl).succ hn (by rw [htask])
    | stalls hinterval => exact absurd hinterval h.heartbeat
    | fails | waits | signs | finishes =>
      rintro t ⟨⟩
      exact (hl _ rfl).succ hn rfl
    | settles _ hu =>
      rintro t ⟨⟩
      exact (hl _ rfl).succ hn hu.id_eq
    | @rests ran =>
      cases ran with
      | true => exact absurd rfl hended
      | false =>
        rcases hl with ⟨m, hm, hgating, hsame, hshut⟩ | ⟨m, hasked, hsame, hnone⟩
        · exact .inl ⟨m, Nat.lt_succ_of_lt hm, hgating, hsame.trans hn.symm, hshut⟩
        · exact .inr ⟨m, hasked.succ hn, hsame.trans hstore.symm, hnone⟩
    | lies => exact hl.imp fun _ hm => hm.imp_left Nat.lt_succ_of_lt

/-- What a drain has found at each of its turns. -/
theorem Alone.leads (h : d.Alone) (n : Nat) : d.Leads n (d.poll n) := by
  induction n with
  | zero => rintro t ⟨⟩
  | succ n ih => exact h.leads_succ ih

/-! ## How long a drain lasts -/

/-- **A drain makes no more attempts than were granted.** -/
theorem Alone.bound (h : d.Alone) (n : Nat) :
    d.attempts n + (d.poll n).worth + (d.store n).grants d.policy.taskTypes ≤
      (d.store 0).grants d.policy.taskTypes := by
  induction n with
  | zero => exact Nat.le_of_eq (Nat.zero_add _)
  | succ n ih =>
    have hready := h.ready n
    have hleads := h.leads n
    have hturns := h.turns hready
    rw [h.store n]
    generalize d.poll n = poll at hturns hready hleads ih
    generalize d.poll (n + 1) = poll' at hturns ⊢
    cases hturns with
    | again hn hleft =>
      rw [hn, hleft]
      simp only [Poll.worth] at ih ⊢
      exact ih
    | goes _ hn hgoes =>
      have hwanted : ∀ ts, poll = .claiming ts → ∀ t ∈ ts, t.isOf d.policy.taskTypes = true := by
        rintro ts rfl t ht
        obtain ⟨m, _, _, _, hts⟩ := hleads
        exact (Bool.and_eq_true_iff.mp (Store.mem_claimable (h.ready m).keyed hts ht).2).2
      have hspends : poll'.worth + (d.left n).store.grants d.policy.taskTypes ≤
          poll.worth + (d.store n).grants d.policy.taskTypes := hgoes.spends hready hwanted
      rw [hn]
      omega

/-- The drain comes to its end. -/
theorem Alone.ends (h : d.Alone) : ∃ n, d.poll n = .ended false ∨ d.poll n = .crashed := by
  refine exists_done (fun n => toLex ((d.store 0).grants d.policy.taskTypes - d.attempts n,
    toLex (d.poll n).remaining)) fun n hover => ?_
  have hbound := h.bound n
  have hturns := h.turns (h.ready n)
  have hdue := h.due n
  rw [Prod.Lex.toLex_lt_toLex]
  generalize d.poll n = poll at hturns hover hbound hdue
  generalize d.poll (n + 1) = poll' at hturns
  cases hturns with
  | again hn _ =>
    refine .inl ?_
    simp only [Poll.worth] at hbound
    omega
  | goes hended hn hgoes =>
    refine .inr ⟨by rw [hn], hgoes.progress h.heartbeat hdue ?_⟩
    cases poll with
    | ended ran => cases ran <;> simp_all
    | crashed => exact absurd (.inr rfl) hover
    | _ => rfl

end Drain

/-! ## Drains of a pipeline -/

namespace Pipeline

variable {p : Pipeline} {policy : DispatchPolicy} {worker : WorkerId} {n : Nat}

/-- Where a drain of a pipeline stands after so many steps, and the pipeline. -/
def draining (p : Pipeline) (policy : DispatchPolicy) (worker : WorkerId) :
    Nat → (Poll × Nat) × Pipeline
  | 0 => ((.gating, 0), p)
  | n + 1 =>
    match p.draining policy worker n with
    | ((.ended true, attempts), p) => ((.gating, attempts + 1), p)
    | ((poll, attempts), p) =>
      (((visit policy worker poll p).1, attempts), (visit policy worker poll p).2)

/-- The drain of a pipeline, by the turns that it gets. -/
def drains (p : Pipeline) (policy : DispatchPolicy) (worker : WorkerId) : Drain where
  policy := policy
  worker := worker
  turns n := (p.draining policy worker n).2.turn (p.draining policy worker n).1.1

theorem state_drains (n : Nat) :
    (p.drains policy worker).state n = (p.draining policy worker n).1 := by
  induction n with
  | zero => rfl
  | succ n ih =>
    rw [Drain.state, draining, ih]
    have hturn : (p.drains policy worker).turns n =
      (p.draining policy worker n).2.turn (p.draining policy worker n).1.1 := rfl
    rw [hturn]
    generalize p.draining policy worker n = found
    obtain ⟨⟨poll, attempts⟩, p⟩ := found
    cases poll with
    | ended ran => cases ran <;> rfl
    | _ => rfl

theorem poll_drains (n : Nat) :
    (p.drains policy worker).poll n = (p.draining policy worker n).1.1 :=
  congrArg Prod.fst (state_drains n)

theorem draining_again (h : (p.drains policy worker).poll n = .ended true) :
    (p.draining policy worker (n + 1)).2 = (p.draining policy worker n).2 := by
  rw [poll_drains] at h
  have hs : p.draining policy worker n =
    ((.ended true, (p.draining policy worker n).1.2), (p.draining policy worker n).2) :=
    Prod.ext (Prod.ext h rfl) rfl
  rw [draining, hs]

theorem draining_goes (h : (p.drains policy worker).poll n ≠ .ended true) :
    ((p.drains policy worker).poll (n + 1), (p.draining policy worker (n + 1)).2) =
      visit policy worker ((p.drains policy worker).poll n) (p.draining policy worker n).2 := by
  rw [poll_drains] at h
  rw [poll_drains, poll_drains, draining]
  split
  · next hs => exact absurd (congrArg (·.1.1) hs) h
  · next hs => simp only [hs]

/-- A drain that has come to its end stays there. -/
theorem turns_ended (h : (p.drains policy worker).poll n = .ended false) (i : Nat) :
    (p.drains policy worker).turns (n + i) = (p.drains policy worker).turns n := by
  have hrests : p.draining policy worker (n + i) = p.draining policy worker n := by
    induction i with
    | zero => rfl
    | succ i ih =>
      rw [poll_drains] at h
      have hs : p.draining policy worker n =
        ((.ended false, (p.draining policy worker n).1.2), (p.draining policy worker n).2) :=
        Prod.ext (Prod.ext h rfl) rfl
      rw [← Nat.add_assoc, draining, ih, hs]
      rfl
  simp only [drains, hrests]

/-- A poll is due at each turn of a drain. -/
theorem due_drains (n : Nat) : ((p.drains policy worker).poll n).Due
    ((p.drains policy worker).turns n).clocks := by
  rw [poll_drains]
  exact due_turn _ _

section Idle

variable (hidle : p.actors = [])

include hidle

theorem actors_draining (n : Nat) : (p.draining policy worker n).2.actors = [] := by
  induction n with
  | zero => exact hidle
  | succ n ih =>
    by_cases h : (p.drains policy worker).poll n = .ended true
    · rw [draining_again h]
      exact ih
    · rw [congrArg Prod.snd (draining_goes h)]
      exact (wait_idle ih _).2

/-- Without actors a drain finds what it left. -/
theorem place_drains (n : Nat) : ((p.drains policy worker).turns (n + 1)).place =
    (p.drains policy worker).left n := by
  have hplace : ∀ m, ((p.drains policy worker).turns m).place =
      (p.draining policy worker m).2.place := fun m => (wait_idle (actors_draining hidle m) _).1
  rw [hplace]
  by_cases h : (p.drains policy worker).poll n = .ended true
  · rw [draining_again h, Drain.left, h, ← hplace]
    rfl
  · rw [congrArg Prod.snd (draining_goes h), Drain.left, visit]
    show (Poll.step policy worker _ _ _).2 = (Poll.step policy worker _ _ _).2
    rw [poll_drains]
    rfl

end Idle

end Pipeline

/-! ## Main statement -/

namespace Drain

variable {d : Drain}

/-- **A drain comes to its end and leaves nothing behind that it could run.** It ends, unless the
gate breaks down, and at no turn has it made more attempts than the tasks granted when it began. It
ends at a shut gate or when no task is open to it, and each of its attempts is on the first of the
tasks that were open to it. -/
theorem drain_leaves_nothing (h : d.Alone) :
    (∃ n, d.poll n = .ended false ∨ d.poll n = .crashed ∧ d.Broke n) ∧
    (∀ n, d.attempts n ≤ (d.store 0).grants d.policy.taskTypes) ∧
    (∀ n, d.poll n = .ended false → d.Shut n ∨ d.Emptied n) ∧
    ∀ n t, (d.poll n).hand? = some t → d.Chose n t := by
  refine ⟨?_, fun n => ?_, fun n hn => ?_, fun n t ht => ?_⟩
  · obtain ⟨n, hn | hn⟩ := h.ends
    · exact ⟨n, .inl hn⟩
    · have hleads := h.leads n
      rw [hn] at hleads
      exact ⟨n, .inr ⟨hn, hleads⟩⟩
  · have hbound := h.bound n
    omega
  · have hleads := h.leads n
    rw [hn] at hleads
    exact hleads
  · have hleads := h.leads n
    cases hn : d.poll n with
    | gating | querying | claiming | ended | crashed => rw [hn] at ht; cases ht
    | _ =>
      rw [hn] at ht hleads
      exact hleads t ht

/-- The first launch of a task never ends and is cut off after a sign of life; the second one
succeeds. A task of another type waits. -/
def hung : Drain :=
  Pipeline.drains {
    place := {
      store := .memory {
        tasks := [.create "b" ⟨.test, "try", none, none⟩ 3 0,
          .create "a" ⟨.impl, "build", none, none⟩ 3 1] }
      gateway := {
        registry := Registry.register {} .impl {
          name := "hung", duration := fun launch _ => if launch = 0 then none else some 5
          ending := fun _ _ _ => .report ⟨true, "ok", none⟩ }
        defaultLimit := 40000 }
      policy := .ofSettings { baseBackoffSecs := 0 } }
    epoch := 10 } (.ofSettings { taskTypes := ["impl"] }) "w"

theorem hung_ended : hung.poll 22 = .ended false :=
  Poll.answer?_eq_some.mp (by decide +kernel)

theorem hung_turns {n : Nat} (h : 22 ≤ n) : hung.turns n = hung.turns 22 := by
  obtain ⟨i, rfl⟩ := Nat.exists_eq_add_of_le h
  exact Pipeline.turns_ended hung_ended i

/-- What holds until the end holds at each turn. -/
theorem hung_forall {p : Turn → Prop} (h : ∀ n < 23, p (hung.turns n)) (n : Nat) :
    p (hung.turns n) := by
  rcases Nat.lt_or_ge n 23 with hn | hn
  · exact h n hn
  · rw [hung_turns (Nat.le_of_succ_le hn)]
    exact h 22 (by decide)

theorem alone_hung : hung.Alone where
  keyed := by decide
  answers n _ := by
    have hmemory : ∀ n < 23, ((hung.turns n).place.store matches .memory _) = true := by
      decide +kernel
    have hn := hung_forall (p := fun turn => (turn.place.store matches .memory _) = true) hmemory n
    rw [store]
    cases h : (hung.turns n).place.store with
    | memory m => exact ⟨_, rfl⟩
    | table s => rw [h] at hn; cases hn
  counts := by decide
  batch := by decide
  heartbeat := by decide
  store n := congrArg (·.store) (Pipeline.place_drains rfl n)
  clock n := by
    have hclock : ∀ n < 22, hung.now n ≤ hung.now (n + 1) := by decide +kernel
    rcases Nat.lt_or_ge n 22 with hn | hn
    · exact hclock n hn
    · rw [now, now, hung_turns hn, hung_turns (Nat.le_succ_of_le hn)]
      exact Int64.le_refl _
  delays := by
    have hspans : ∀ n < 23,
        (hung.turns n).clocks.now.toInt + ((hung.turns n).place.policy.genericDelay : Int) ≤
            Int64.maxValue.toInt ∧
          (hung.turns n).clocks.now.toInt + ((hung.turns n).place.policy.maxBackoff : Int) ≤
            Int64.maxValue.toInt := by decide +kernel
    exact hung_forall (p := fun turn => turn.place.policy.Fits turn.clocks.now) fun n hn =>
      RetryPolicy.fits_of_le (hspans n hn).1 (hspans n hn).2
  due := Pipeline.due_drains

theorem drain_leaves_nothing_hung : hung.Alone ∧ hung.poll 22 = .ended false ∧
    hung.attempts 22 = 2 ∧ (hung.store 0).grants hung.policy.taskTypes = 3 ∧
    hung.attempts 22 ≤ (hung.store 0).grants hung.policy.taskTypes ∧
    (hung.Shut 22 ∨ hung.Emptied 22) := by
  obtain ⟨_, hbound, hends, _⟩ := drain_leaves_nothing alone_hung
  exact ⟨alone_hung, hung_ended, by decide +kernel, by decide +kernel, hbound 22,
    hends 22 hung_ended⟩

end Drain

end TaskPipeline
