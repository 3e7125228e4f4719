import Mathlib
import TaskPipeline.Proofs.Dispatch.Shift
import TaskPipeline.Proofs.Store.Attempts
import TaskPipeline.Proofs.Store.Passage

/-!
# A shutdown leaves no orphans

What is claimed or running in the name of a worker is what the worker is at, if the store answers
the workers and no poll breaks down with a task in hand (`Sound.held`). Only what was in the name of
the worker when the shift began, and has been ever since, may be left over. A worker that has
stopped is at nothing, so nothing else is left in the name of any when the shutdown is over
(`shutdown_graceful`). What an earlier process left behind under the same name is
(`orphan_resuming`).
-/

namespace TaskPipeline

theorem DispatchPolicy.heartbeatInterval_ofSettings (settings : DispatchSettings) :
    (ofSettings settings).heartbeatInterval ≠ 0 := by
  have hpos : (max settings.heartbeatSecs 1).toNat ≠ 0 := by simp [UInt64.toNat_max]
  exact Nat.mul_ne_zero hpos (by decide)

/-- The worker holds the task. -/
def Task.HeldBy (worker : WorkerId) (t : Task) : Prop :=
  t.status.isHeld = true ∧ t.claimedBy = some worker

/-! ## What a poll is at -/

namespace Poll

/-- The poll is at the claim or at the attempt that the task shows. -/
def Minds (v : Task) : Poll → Prop
  | starting t => t.id = v.id ∧ v.status = .claimed
  | launching r | settling r _ =>
    r.id = v.id ∧ v.status = .running ∧ v.attemptCount = r.attemptCount
  | attempting a _ =>
    a.task.id = v.id ∧ v.status = .running ∧ v.attemptCount = a.task.attemptCount
  | gating | querying | claiming _ | telling _ | ended _ | crashed => False

variable {poll poll' : Poll} {t v : Task}

/-- A sign of life changes nothing about that. -/
theorem Minds.touched (h : poll.Minds v) (at' : Instant) :
    poll.Minds { v with updatedAt := at' } := by
  cases poll with
  | starting | launching | settling | attempting => exact h
  | gating | querying | claiming | telling | ended | crashed => exact h

theorem Minds.hand? (h : poll.Minds v) : poll.hand? ≠ none := by
  cases poll with
  | starting | launching | settling | attempting => simp [Poll.hand?]
  | gating | querying | claiming | telling | ended | crashed => exact absurd h id

theorem Minds.isOver (h : poll.Minds v) : poll.isOver = false := by
  cases poll with
  | ended | crashed => exact absurd h id
  | _ => rfl

/-- What is in the name of the worker after a step is what the poll is at then, or it was in its
name before without the poll being at it. -/
def Accounts (worker : WorkerId) (poll poll' : Poll) (v v' : Option Task) : Prop :=
  ∀ u, v' = some u → u.HeldBy worker →
    poll'.Minds u ∨ ∃ t, v = some t ∧ t.HeldBy worker ∧ ¬poll.Minds t

theorem Accounts.of_same {worker : WorkerId} {v v' : Option Task} (h : v' = v)
    (hkeeps : ∀ u, poll.Minds u → poll'.Minds u) : Accounts worker poll poll' v v' := by
  intro u hu hheld
  by_cases hminds : poll.Minds u
  · exact .inl (hkeeps u hminds)
  · exact .inr ⟨u, h ▸ hu, hheld, hminds⟩

/-- The store does not fail the poll in its next step. -/
def Served (worker : WorkerId) (c : Clocks) (w : Workplace) (poll : Poll) : Prop :=
  ∀ call, poll.call? worker c w = some call → ∃ q, (w.store.perform c.now call).1 = .ok q

section Step

variable {p : DispatchPolicy} {worker : WorkerId} {c : Clocks} {w : Workplace} {i : TaskId}

theorem accounts_claiming (candidates : List Task) :
    Accounts worker (claiming candidates) ((claiming candidates).step p worker c w).1
      (w.store.task? i) (((claiming candidates).step p worker c w).2.store.task? i) := by
  cases candidates with
  | nil => exact .of_same rfl fun _ => False.elim
  | cons t rest =>
    rcases hclaim : w.store.claim t.id worker c.now with ⟨answer, s'⟩
    simp only [step, claimFirst, hclaim]
    rcases Store.claim_cases w.store t.id worker c.now with ⟨hsame, hlost⟩ | ⟨u, hwon, hwins⟩
    · rw [hclaim] at hsame hlost
      have htask : s'.task? i = w.store.task? i := congrFun hsame.task? i
      cases answer with
      | error => exact .of_same htask fun _ => False.elim
      | ok result =>
        cases result with
        | claimed u => exact absurd rfl (hlost u)
        | alreadyClaimed => exact .of_same htask fun _ => False.elim
    · rw [hclaim] at hwon hwins
      cases hwon
      by_cases hi : i = u.id
      · intro v hv _
        subst hi
        cases hwins.puts.self.symm.trans hv
        exact .inl ⟨rfl, hwins.status⟩
      · exact .of_same (hwins.puts.other hi) fun _ => False.elim

theorem accounts_starting (hserved : (starting t).Served worker c w) :
    Accounts worker (starting t) ((starting t).step p worker c w).1
      (w.store.task? i) (((starting t).step p worker c w).2.store.task? i) := by
  rcases Store.start_cases w.store t.id worker c.now with
    ⟨e, hstart⟩ | ⟨v, r, s', hv, hmoves, hputs, hstart⟩
  · obtain ⟨q, hq⟩ := hserved _ rfl
    simp only [Store.perform, Store.answered, hstart] at hq
    cases hq
  · have hrid : r.id = t.id := hmoves.keeps.1.trans (Store.id_of_task? hv)
    simp only [step, hstart]
    intro u hu hheld
    by_cases hi : i = r.id
    · subst hi
      cases hputs.self.symm.trans hu
      cases hmoves
      exact .inl ⟨rfl, rfl, rfl⟩
    · have hu : w.store.task? i = some u := (hputs.other hi).symm.trans hu
      refine .inr ⟨u, hu, hheld, fun hminds => hi ?_⟩
      rw [hrid, hminds.1, Store.id_of_task? hu]

theorem accounts_launching {r : Task} (hbeats : p.heartbeatInterval ≠ 0) :
    Accounts worker (launching r) ((launching r).step p worker c w).1
      (w.store.task? i) (((launching r).step p worker c w).2.store.task? i) := by
  simp only [step, if_neg hbeats]
  cases he : w.gateway.registry.executor? r.taskType with
  | none =>
    obtain ⟨outcome, hlaunch⟩ := Gateway.launch_none he c.steady
    rw [hlaunch]
    exact .of_same rfl fun _ => id
  | some e =>
    obtain ⟨a, g, hlaunch, htask, _⟩ := Gateway.launch_some he c.steady
    rw [hlaunch]
    subst htask
    exact .of_same rfl fun _ => id

theorem accounts_attempting {a : Attempt} {beat : Nat} :
    Accounts worker (attempting a beat) ((attempting a beat).step p worker c w).1
      (w.store.task? i) (((attempting a beat).step p worker c w).2.store.task? i) := by
  simp only [step, attend, giveSign]
  split
  · exact .of_same rfl fun _ => id
  · split
    · have hasked : w.store.Asked c.now a.task.id (.touch worker)
          (w.store.perform c.now (.touch a.task.id worker)) :=
        Store.asked_perform w.store rfl (by simp)
      rcases hasked.same_or_puts with hsame | ⟨t, u, ht, hmoves, hu, hputs⟩
      · exact .of_same (congrArg (·.task? i) hsame) fun _ => id
      · by_cases hi : i = u.id
        · intro v hv _
          subst hi
          cases hputs.self.symm.trans hv
          cases hmoves with
          | touch _ hheld hholder =>
            by_cases hminds : (attempting a beat).Minds t
            · exact .inl (Minds.touched hminds c.now)
            · exact .inr ⟨t, by rw [hu]; exact ht, ⟨hheld, hholder⟩, hminds⟩
        · exact .of_same (hputs.other hi) fun _ => id
    · exact .of_same rfl fun _ => id

theorem accounts_settling {r : Task} {outcome : Outcome}
    (hserved : (settling r outcome).Served worker c w) :
    Accounts worker (settling r outcome) ((settling r outcome).step p worker c w).1
      (w.store.task? i) (((settling r outcome).step p worker c w).2.store.task? i) := by
  rcases Store.recordOutcome_cases w.store r.id r.attemptCount
    (w.policy.decide r outcome c.now) c.now with
    ⟨e, hrecord⟩ | ⟨t, u, applied, s', ht, hsettle, hputs, hrecord⟩
  · obtain ⟨q, hq⟩ := hserved _ rfl
    simp only [Store.perform, Store.answered, hrecord] at hq
    cases hq
  · obtain ⟨hmoves, hcases⟩ := Task.settle_eq_ok hsettle
    have huid : u.id = r.id := hmoves.keeps.1.trans (Store.id_of_task? ht)
    have hstore : ((settling r outcome).step p worker c w).2.store = s' := by
      simp only [step, settle, hrecord]
      split <;> rfl
    rw [hstore]
    intro v hv hheld
    by_cases hi : i = u.id
    · subst hi
      cases hputs.self.symm.trans hv
      rcases hcases with ⟨rfl, hlate⟩ | ⟨rfl, hrunning, hcount⟩
      · cases hsettle.symm.trans (Task.settle_late hlate)
        exact .inr ⟨t, by rw [huid]; exact ht, hheld, fun hminds => hlate hminds.2⟩
      · -- Whoever settles a task gives it back.
        rw [Task.settle_running ⟨hrunning, hcount⟩] at hsettle
        obtain ⟨_, _, hpair⟩ := Task.map_eq_ok.mp hsettle
        cases hpair
        cases hheld.2
    · have hv : w.store.task? i = some v := (hputs.other hi).symm.trans hv
      refine .inr ⟨v, hv, hheld, fun hminds => hi ?_⟩
      rw [huid, hminds.1, Store.id_of_task? hv]

/-- **A step accounts for what is in the name of the worker**, if the store does not fail it. -/
theorem accounts_step {poll : Poll} (hbeats : p.heartbeatInterval ≠ 0)
    (hserved : poll.Served worker c w) :
    Accounts worker poll (poll.step p worker c w).1 (w.store.task? i)
      ((poll.step p worker c w).2.store.task? i) := by
  cases poll with
  | claiming candidates => exact accounts_claiming candidates
  | starting => exact accounts_starting hserved
  | launching => exact accounts_launching hbeats
  | attempting => exact accounts_attempting
  | settling => exact accounts_settling hserved
  | gating | querying | telling | ended | crashed =>
    exact .of_same (by rw [store_step]; rfl) fun _ => False.elim

end Step

end Poll

/-! ## What a worker is at -/

namespace Worker

/-- The worker is at the claim or at the attempt that the task shows. -/
def Minds (x : Worker) (v : Task) : Prop := ∃ poll, x.phase = .polling poll ∧ poll.Minds v

variable {x : Worker} {c : Clocks} {w : Workplace}

/-- A worker that is at no poll, or whose poll is over, leaves everything as it is. -/
theorem step_over (h : ∀ poll, x.phase = .polling poll → poll.isOver = true) :
    (x.step c w).2 = w := by
  rcases x.step_cases c w with ⟨hplace, _⟩ | ⟨poll, hp, hstep⟩
  · exact hplace
  · rw [hstep]
    cases poll with
    | ended | crashed => rfl
    | _ => cases h _ hp

/-- What is in the name of a worker after its step is what it is at then, or it was in its name
before without the worker being at it. -/
theorem accounts_step (hbeats : x.policy.heartbeatInterval ≠ 0)
    (hserved : ∀ poll, x.phase = .polling poll → poll.Served x.id c w) {id : TaskId} {u : Task}
    (hu : (x.step c w).2.store.task? id = some u) (hheld : u.HeldBy x.id) :
    (x.step c w).1.Minds u ∨ ∃ t, w.store.task? id = some t ∧ t.HeldBy x.id ∧ ¬x.Minds t := by
  by_cases hpoll : ∃ poll, x.phase = .polling poll ∧ poll.isOver = false
  · obtain ⟨poll, hp, hover⟩ := hpoll
    rw [step_poll hp hover] at hu ⊢
    have haccounts : poll.Accounts x.id (poll.step x.policy x.id c w).1 (w.store.task? id) _ :=
      Poll.accounts_step hbeats (hserved poll hp)
    rcases haccounts u hu hheld with hminds | ⟨t, ht, htheld, hminds⟩
    · exact .inl ⟨_, rfl, hminds⟩
    · refine .inr ⟨t, ht, htheld, ?_⟩
      rintro ⟨poll', hp', hminds'⟩
      cases hp.symm.trans hp'
      exact hminds hminds'
  · have hover : ∀ poll, x.phase = .polling poll → poll.isOver = true := fun poll hp =>
      Bool.eq_true_of_not_eq_false fun hover => hpoll ⟨poll, hp, hover⟩
    rw [step_over hover] at hu
    refine .inr ⟨u, hu, hheld, ?_⟩
    rintro ⟨poll, hp, hminds⟩
    cases hminds.isOver.symm.trans (hover poll hp)

end Worker

/-! ## What others do -/

/-- A poll claims and starts in the name of its worker. -/
theorem Poll.claimant_call? {worker : WorkerId} {c : Clocks} {w : Workplace} {poll : Poll}
    {call : Call} (h : poll.call? worker c w = some call) :
    ∀ other ∈ call.claimant?, other = worker := by
  unfold call? at h
  split at h
  · cases h; simp [Call.claimant?]
  · cases h; simp [Call.claimant?]
  · split at h <;> cases h
    simp [Call.claimant?]
  · cases h; simp [Call.claimant?]
  · cases h

/-- Who neither claims nor starts anything in the name of a worker leaves the worker nothing new. -/
theorem Store.Passes.touched {now : Instant} {id : TaskId} {c : Call} {worker : WorkerId}
    {v : Option Task} {u : Task} (h : Passes now id c v (some u)) (hc : worker ∉ c.claimant?)
    (hheld : u.HeldBy worker) : ∃ t at', v = some t ∧ u = { t with updatedAt := at' } := by
  generalize hu : some u = v' at h
  cases h with
  | stays => exact ⟨u, u.updatedAt, hu.symm, rfl⟩
  | made hpending =>
    cases hu
    have hstatus := hheld.1
    rw [hpending] at hstatus
    cases hstatus
  | appears hcall _ hholder =>
    cases hu
    cases hholder.symm.trans hheld.2
    subst hcall
    exact absurd rfl hc
  | @moves op t _ hreaches hmoves =>
    cases hu
    obtain ⟨hstatus, hholder⟩ := hheld
    cases hmoves with
    | claim other _ =>
      cases hholder
      cases hreaches with
      | asks hasks => cases c <;> cases hasks; exact absurd rfl hc
    | start other _ hother _ =>
      cases hother.symm.trans hholder
      cases hreaches with
      | asks hasks => cases c <;> cases hasks; exact absurd rfl hc
    | touch => exact ⟨t, now, rfl, rfl⟩
    | late => exact ⟨u, u.updatedAt, rfl, rfl⟩
    | complete | retry | fail | escalate | release | requeue | abandon => cases hholder
    | resume | dismiss | reopen | expire => cases hstatus
    | cancel hpending _ =>
      have hstatus : t.status.isHeld = true := hstatus
      rw [hpending] at hstatus
      cases hstatus

namespace Staff

theorem idOf_injective {s : Staff} {i j : Nat} (h : s.idOf i = s.idOf j) : i = j :=
  Nat.repr_injective ((String.append_right_inj s.name).mp h)

/-- An event makes at most one call of the store, and nobody but a worker claims or starts anything
in its name. -/
theorem store_step (s : Staff) (event : ShiftEvent) :
    (s.step event).place.store = s.place.store ∨
    ∃ now call, call.isFresh s.place.store = true ∧
      (s.step event).place.store = (s.place.store.perform now call).2 ∧
      ∀ worker ∈ call.claimant?, worker ∈ s.ids →
        ∃ i c x, event = .work i c ∧ s.workers[i]? = some x ∧ x.id = worker := by
  cases event with
  | hire => simp only [step, hire]; split <;> exact .inl rfl
  | work i c =>
    simp only [step, work]
    split
    · exact .inl rfl
    · next x hx =>
      rcases x.store_step c s.place with hstore | ⟨poll, call, _, hcall, hstore⟩
      · exact .inl hstore
      · obtain ⟨_, _, _, hfresh⟩ := Poll.about_call? hcall
        refine .inr ⟨c.now, call, hfresh _, hstore, fun worker hworker _ => ?_⟩
        exact ⟨i, c, x, rfl, hx, (Poll.claimant_call? hcall worker hworker).symm⟩
  | panic => simp only [step]; split <;> exact .inl rfl
  | cancel | equip => exact .inl rfl
  | call now call =>
    simp only [step]
    split
    · next hallows =>
      simp only [allows, Bool.and_eq_true, Bool.not_eq_true'] at hallows
      refine .inr ⟨now, call, hallows.1, rfl, fun worker hworker hid => ?_⟩
      have hnone := hallows.2
      rw [Option.mem_def.mp hworker, Option.any_some, List.contains_iff_mem.mpr hid] at hnone
      cases hnone
    · exact .inl rfl

end Staff

/-! ## What is in the name of a worker -/

namespace Shift

def idOf (k : Shift) (i : Nat) : WorkerId := k.name ++ toString i

def store (k : Shift) (n : Nat) : Store := (k.staff n).place.store

/-- The task under the id is claimed or running in the name of the worker. -/
def Held (k : Shift) (i n : Nat) (id : TaskId) : Prop := Holds (k.idOf i) ((k.store n).task? id)

/-- The worker is at the task under the id, as the store shows it. -/
def Minds (k : Shift) (i n : Nat) (id : TaskId) : Prop :=
  ∃ x t, k.worker? i n = some x ∧ (k.store n).task? id = some t ∧ x.Minds t

/-- The store does not fail a worker, and no poll breaks down with a task in hand. Between two signs
of life lies some time, as in all settings (`DispatchPolicy.heartbeatInterval_ofSettings`). -/
structure Sound (k : Shift) : Prop where
  keyed : k.place.store.Keyed
  beats : k.policy.heartbeatInterval ≠ 0
  served : ∀ i n c x poll, k.events n = .work i c → k.worker? i n = some x →
    x.phase = .polling poll → poll.Served x.id c (k.staff n).place
  panics : ∀ i n x poll, k.events n = .panic i → k.worker? i n = some x →
    x.phase = .polling poll → poll.hand? = none

variable {k : Shift} {i n m l : Nat} {id : TaskId} {x : Worker} {t u : Task}

theorem serves (k : Shift) (hx : k.worker? i n = some x) :
    x.id = k.idOf i ∧ x.policy = k.policy := by
  obtain ⟨hid, hpolicy, _⟩ := (k.inv n).serves i x hx
  obtain ⟨hp, hname⟩ := k.same n
  exact ⟨by rw [hid, Staff.idOf, hname, idOf], hpolicy.trans hp⟩

theorem Sound.keyed_at (h : k.Sound) (n : Nat) : (k.store n).Keyed := by
  induction n with
  | zero => exact h.keyed
  | succ n ih =>
    rcases (k.staff n).store_step (k.events n) with hstore | ⟨now, call, hfresh, hstore, _⟩
    · rw [store, staff, hstore]
      exact ih
    · rw [store, staff, hstore]
      exact (Store.keepsTypes_perform ih hfresh now).2

/-- A worker that has a task in hand is where it was, unless it does a step. -/
theorem Sound.rests (h : k.Sound) (hevent : ∀ c, k.events n ≠ .work i c) {poll : Poll}
    (hx : k.worker? i n = some x) (hp : x.phase = .polling poll) (hhand : poll.hand? ≠ none) :
    ∃ x', k.worker? i (n + 1) = some x' ∧ x'.phase = .polling poll := by
  have hfares := k.fares i n
  have hpanics := h.panics i n x poll
  rw [hx] at hfares
  generalize k.events n = event at hfares hevent hpanics
  generalize k.worker? i (n + 1) = v' at hfares
  cases hfares with
  | works => exact absurd rfl (hevent _)
  | breaks => exact absurd (hpanics rfl hx hp) hhand
  | told => exact ⟨_, rfl, hp⟩
  | stays => exact ⟨x, rfl, hp⟩

/-- What is in the name of a worker that does no step was so before, but for a sign of life. -/
theorem Sound.touched (h : k.Sound) (hi : i < k.policy.workers)
    (hevent : ∀ c, k.events n ≠ .work i c) (hu : (k.store (n + 1)).task? id = some u)
    (hheld : u.HeldBy (k.idOf i)) :
    ∃ t at', (k.store n).task? id = some t ∧ u = { t with updatedAt := at' } := by
  rcases (k.staff n).store_step (k.events n) with hstore | ⟨now, call, hfresh, hstore, hclaimant⟩
  · rw [store, staff, hstore] at hu
    exact ⟨u, u.updatedAt, hu, rfl⟩
  · rw [store, staff, hstore] at hu
    have hpasses : Store.Passes now id call ((k.store n).task? id) _ :=
      Store.passes_perform (h.keyed_at n) call (Call.unused_of_isFresh hfresh) now id
    rw [store, hu] at hpasses
    refine hpasses.touched (fun hcall => ?_) hheld
    obtain ⟨hpolicy, hname⟩ := k.same n
    have hid : k.idOf i = (k.staff n).idOf i := by rw [Staff.idOf, hname, idOf]
    have hmem : k.idOf i ∈ (k.staff n).ids := by
      rw [hid]
      exact List.mem_map.mpr ⟨i, List.mem_range.mpr (by rw [hpolicy]; exact hi), rfl⟩
    obtain ⟨j, c, x, hwork, hx, hxid⟩ := hclaimant _ hcall hmem
    rw [((k.inv n).serves j x hx).id, hid] at hxid
    exact hevent c (Staff.idOf_injective hxid ▸ hwork)

theorem Sound.accounts (h : k.Sound) {c : Clocks} (hevent : k.events n = .work i c)
    (hu : (k.store (n + 1)).task? id = some u) (hheld : u.HeldBy (k.idOf i)) :
    k.Minds i (n + 1) id ∨ k.Held i n id ∧ ¬k.Minds i n id := by
  cases hx : k.worker? i n with
  | none =>
    have hx' : (k.staff n).workers[i]? = none := hx
    have hstore : k.store (n + 1) = k.store n := by
      simp only [store, staff, hevent, Staff.step, Staff.work, hx']
    rw [hstore] at hu
    refine .inr ⟨⟨u, hu, hheld⟩, ?_⟩
    rintro ⟨x, t, hx', _, _⟩
    cases hx.symm.trans hx'
  | some x =>
    have hx' : (k.staff n).workers[i]? = some x := hx
    have hstore : k.store (n + 1) = (x.step c (k.staff n).place).2.store := by
      simp only [store, staff, hevent, Staff.step, Staff.work, hx']
    obtain ⟨hid, hpolicy⟩ := k.serves hx
    have hstep := hu
    rw [hstore] at hstep
    rcases Worker.accounts_step (by rw [hpolicy]; exact h.beats)
      (fun poll => h.served i n c x poll hevent hx) hstep (hid ▸ hheld) with
      hminds | ⟨t, ht, htheld, hminds⟩
    · exact .inl ⟨_, u, worker?_work hevent hx, hu, hminds⟩
    · refine .inr ⟨⟨t, ht, hid ▸ htheld⟩, ?_⟩
      rintro ⟨y, t', hy, ht', hminds'⟩
      cases hx.symm.trans hy
      cases ht.symm.trans ht'
      exact hminds hminds'

/-- **What is in the name of a worker is what it is at**, but for what has been in its name since
the shift began. -/
theorem Sound.held (h : k.Sound) (hi : i < k.policy.workers) (hheld : k.Held i n id) :
    k.Minds i n id ∨ ∀ l ≤ n, k.Held i l id := by
  induction n with
  | zero =>
    refine .inr fun l hl => ?_
    rw [Nat.le_zero.mp hl]
    exact hheld
  | succ n ih =>
    have hsince : (∀ l ≤ n, k.Held i l id) → ∀ l ≤ n + 1, k.Held i l id := by
      intro hbefore l hl
      rcases Nat.le_succ_iff.mp hl with hl | rfl
      · exact hbefore l hl
      · exact hheld
    obtain ⟨u, hu, huheld⟩ := hheld
    by_cases hevent : ∃ c, k.events n = .work i c
    · obtain ⟨c, hevent⟩ := hevent
      rcases h.accounts hevent hu huheld with hminds | ⟨hbefore, hnot⟩
      · exact .inl hminds
      · exact .inr (hsince ((ih hbefore).resolve_left hnot))
    · have hevent : ∀ c, k.events n ≠ .work i c := fun c he => hevent ⟨c, he⟩
      obtain ⟨t, at', ht, rfl⟩ := h.touched hi hevent hu huheld
      rcases ih ⟨t, ht, huheld⟩ with ⟨x, t', hx, ht', poll, hp, hminds⟩ | hbefore
      · cases ht.symm.trans ht'
        obtain ⟨x', hx', hp'⟩ := h.rests hevent hx hp hminds.hand?
        exact .inl ⟨x', _, hx', hu, poll, hp', hminds.touched at'⟩
      · exact .inr (hsince hbefore)

/-! ## Main statement -/

/-- **A shutdown leaves no orphans.** At any time the gauge says how many of the workers that were
started have not ended. From the shutdown on each worker begins at most one attempt, in the one poll
that it has been at since before. If each worker gets its turns and each attempt ends, the loops of
all workers end. When they have, the gauge is zero, and nothing is claimed or running in the name of
a worker but what was so when the shift began and has been so ever since. -/
theorem shutdown_graceful (k : Shift) {m : Nat} (hm : k.events m = .cancel) :
    (∀ n, (k.staff n).gauge = (k.staff n).workers.countP Worker.isLive) ∧
    (∀ i j, m ≤ j → k.Begins i j → ∀ l, m ≤ l → l ≤ j → k.Polls i l) ∧
    (∀ i j j', m ≤ j → m ≤ j' → k.Begins i j → k.Begins i j' → j = j') ∧
    (k.Fair → ∃ n, k.Over n) ∧
    ∀ n, k.Over n → (k.staff n).gauge = 0 ∧
      (k.Sound → ∀ i < k.policy.workers, ∀ id, k.Held i n id → ∀ l ≤ n, k.Held i l id) := by
  refine ⟨fun n => (k.inv n).gauge, fun i j _ hbegins l hl hj => hbegins.polls hm hl hj,
    fun i j j' hj hj' => begins_once hm hj hj', fun hfair => hfair.over hm, ?_⟩
  intro n hover
  refine ⟨hover.gauge, fun hsound i hi id hheld => (hsound.held hi hheld).resolve_left ?_⟩
  -- A worker that has stopped is at no poll.
  rintro ⟨x, _, hx, _, poll, hp, _⟩
  have hstopped := hover.2 x (List.mem_of_getElem? hx)
  rw [Worker.isLive_eq_false, hp] at hstopped
  cases hstopped

/-- A shift is fair if it is over from some time on, and each worker gets its turns. -/
theorem Fair.of_over (hover : ∀ l, n ≤ l → k.Over l)
    (hturns : ∀ i n x, k.worker? i n = some x → x.isLive = true →
      ∃ l ≥ n, ∃ c, k.events l = .work i c) : k.Fair where
  hires := ⟨n, (hover n (Nat.le_refl n)).1⟩
  turns := hturns
  attempts i l _ := by
    refine ⟨max l n, Nat.le_max_left _ _, ?_⟩
    rintro ⟨x, hx, a, beat, hp⟩
    have hstopped := (hover _ (Nat.le_max_right l n)).2 x (List.mem_of_getElem? hx)
    rw [Worker.isLive_eq_false, hp] at hstopped
    cases hstopped

/-- The store does not fail the worker that does a step. -/
def serves? (k : Shift) (n : Nat) : Bool :=
  match k.events n with
  | .work i c => (k.worker? i n).all fun x =>
    match x.phase with
    | .polling poll => (poll.call? x.id c (k.staff n).place).all fun call =>
      ((k.store n).perform c.now call).1.toOption.isSome
    | _ => true
  | _ => true

/-- A shift is sound if the store fails nobody until it is over, and no poll breaks down. -/
theorem Sound.of_over (hk : k.place.store.Keyed) (hbeats : k.policy.heartbeatInterval ≠ 0)
    (hserves : ∀ l < n, k.serves? l = true) (hover : ∀ l, n ≤ l → k.Over l)
    (hpanics : ∀ l i, k.events l ≠ .panic i) : k.Sound where
  keyed := hk
  beats := hbeats
  served i l c x poll hevent hx hp call hcall := by
    rcases Nat.lt_or_ge l n with hl | hl
    · have hserved := hserves l hl
      simp only [serves?, hevent, hx, hp, hcall, Option.all_some] at hserved
      cases hanswer : ((k.staff l).place.store.perform c.now call).1 with
      | ok q => exact ⟨q, rfl⟩
      | error e => rw [store, hanswer] at hserved; cases hserved
    · have hstopped := (hover l hl).2 x (List.mem_of_getElem? hx)
      rw [Worker.isLive_eq_false, hp] at hstopped
      cases hstopped
  panics i l _ _ hevent := absurd hevent (hpanics l i)

/-- Of two workers one has its poll broken down at the gate. The other has claimed a task when the
shutdown begins, and still runs it. A task of another type waits. -/
def closing : Shift where
  policy := .ofSettings { workers := 2, taskTypes := ["impl"], pollIntervalMs := 1000 }
  name := "w"
  place := {
    store := .memory {
      tasks := [.create "a" ⟨.impl, "build", none, none⟩ 3 0,
        .create "b" ⟨.test, "try", none, none⟩ 3 1] }
    gateway := {
      registry := Registry.register {} .impl (.ofReports "impl" [] ⟨true, "ok", none⟩ 5)
      defaultLimit := 5000 }
    policy := .ofSettings {}
    gatePanics := 1 }
  events n := if n < 2 then .hire else if n = 10 then .cancel else .work (n % 2) ⟨10, 1000 * n⟩

theorem cancel_closing : closing.events 10 = .cancel := rfl

theorem work_closing (h : 11 ≤ n) : closing.events n = .work (n % 2) ⟨10, 1000 * n⟩ := by
  show (if n < 2 then ShiftEvent.hire else if n = 10 then .cancel else _) = _
  rw [if_neg (by omega), if_neg (by omega)]

theorem over_closing (h : 24 ≤ n) : closing.Over n := by
  have hover : (closing.staff 24).workers.length = 2 ∧
      ∀ x ∈ (closing.staff 24).workers, x.isLive = false := by decide +kernel
  exact Over.later hover cancel_closing (by decide) h

theorem fair_closing : closing.Fair := by
  refine .of_over (fun _ => over_closing) fun i n x hx _ => ?_
  have hi : i < 2 := Nat.lt_of_lt_of_le (List.getElem?_eq_some_iff.mp hx).1
    (Nat.le_trans (closing.inv n).few (by rw [(closing.same n).1]; decide))
  have hmod : (2 * (n + 6) + i) % 2 = i := by omega
  refine ⟨2 * (n + 6) + i, by omega, ⟨10, 1000 * (2 * (n + 6) + i)⟩, ?_⟩
  rw [work_closing (by omega), hmod]

theorem sound_closing : closing.Sound := by
  refine .of_over (n := 24) (by decide) (DispatchPolicy.heartbeatInterval_ofSettings _)
    (by decide +kernel) (fun _ => over_closing) fun n i hevent => ?_
  have hevent : (if n < 2 then ShiftEvent.hire else if n = 10 then .cancel else _) = _ := hevent
  split at hevent <;> [cases hevent; (split at hevent <;> cases hevent)]

theorem shutdown_graceful_closing :
    closing.events 10 = .cancel ∧ closing.Fair ∧ closing.Sound ∧
    (closing.worker? 1 11).any (fun x => x.phase matches .polling (.starting _)) = true ∧
    ((closing.store 24).task? "a").map (·.status) = some .completed ∧
    ((closing.store 24).task? "b").map (·.status) = some .pending ∧
    (∃ n, closing.Over n) ∧
    ∀ n, closing.Over n → (closing.staff n).gauge = 0 ∧ ∀ i < 2, ∀ id, ¬closing.Held i n id := by
  obtain ⟨_, _, _, hover, hgraceful⟩ := shutdown_graceful closing cancel_closing
  refine ⟨cancel_closing, fair_closing, sound_closing, by decide +kernel, by decide +kernel,
    by decide +kernel, hover fair_closing, fun n hn => ?_⟩
  obtain ⟨hgauge, horphans⟩ := hgraceful n hn
  refine ⟨hgauge, fun i hi id hheld => ?_⟩
  obtain ⟨t, ht, hstatus, _⟩ := horphans sound_closing i hi id hheld 0 (Nat.zero_le n)
  have hfree : ∀ t ∈ Pipeline.readable (closing.store 0), t.status.isHeld = false := by decide
  have hmem : t ∈ Pipeline.readable (closing.store 0) :=
    (sound_closing.keyed_at 0).mem_readable.mpr (by rw [Store.id_of_task? ht]; exact ht)
  cases hstatus.symm.trans (hfree t hmem)

/-- A shift that begins with a task still running in the name of its worker, and is shut down. -/
def resuming : Shift where
  policy := .ofSettings { workers := 1 }
  name := "w"
  place := {
    store := .table {
      rows := [.ofTask { Task.create "a" ⟨.impl, "build", none, none⟩ 3 0 with
        status := .running, attemptCount := 1, claimedBy := some "w0" }] }
    gateway := { defaultLimit := 5000 }
    policy := .ofSettings {} }
  events n := if n = 0 then .hire else if n = 1 then .cancel else .work 0 ⟨10, n⟩

theorem over_resuming (h : 3 ≤ n) : resuming.Over n := by
  have hover : (resuming.staff 3).workers.length = 1 ∧
      ∀ x ∈ (resuming.staff 3).workers, x.isLive = false := by decide +kernel
  exact Over.later hover (m := 1) rfl (by decide) h

theorem fair_resuming : resuming.Fair := by
  refine .of_over (fun _ => over_resuming) fun i n x hx _ => ?_
  have hi : i < 1 := Nat.lt_of_lt_of_le (List.getElem?_eq_some_iff.mp hx).1
    (Nat.le_trans (resuming.inv n).few (by rw [(resuming.same n).1]; decide))
  obtain rfl := Nat.lt_one_iff.mp hi
  exact ⟨n + 2, Nat.le_add_right n 2, ⟨10, n + 2⟩, rfl⟩

theorem sound_resuming : resuming.Sound := by
  refine .of_over (n := 3) (by decide) (DispatchPolicy.heartbeatInterval_ofSettings _)
    (by decide +kernel) (fun _ => over_resuming) fun n i hevent => ?_
  have hevent : (if n = 0 then ShiftEvent.hire else if n = 1 then .cancel else _) = _ := hevent
  split at hevent <;> [cases hevent; (split at hevent <;> cases hevent)]

/-- **A task may be left running in the name of a worker when the shutdown is over**, if it was so
when the shift began. -/
theorem orphan_resuming :
    resuming.events 1 = .cancel ∧ resuming.Fair ∧ resuming.Sound ∧
    ∃ n, resuming.Over n ∧ resuming.Held 0 n "a" := by
  have hfacts : ((resuming.store 3).task? "a").map (fun t => (t.status.isHeld, t.claimedBy)) =
      some (true, some (resuming.idOf 0)) := by decide +kernel
  obtain ⟨t, ht, hheld⟩ := Option.map_eq_some_iff.mp hfacts
  obtain ⟨hstatus, hholder⟩ := Prod.mk.inj hheld
  exact ⟨rfl, fair_resuming, sound_resuming, 3, over_resuming (Nat.le_refl 3), t, ht, hstatus,
    hholder⟩

end Shift

end TaskPipeline
