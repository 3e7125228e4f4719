import Mathlib.Data.Int.Basic
import TaskPipeline.Proofs.Dispatch.Attempt
import TaskPipeline.Proofs.Reaper.Step

/-!
# Live workers keep their tasks

A crew is any number of workers and reapers on one store. Its events are the single steps of
everybody, in any order; time passes only as far as nobody is late. While every worker gives signs
of life at least as often as every reaper demands, no task is taken from a worker with an open
attempt, and the outcome of every attempt takes effect (`undisturbed_run`).

The invariant is in `Crew.Manned`: the silence of a worker that is allowed up to now is covered by
the last change of its task.
-/

namespace TaskPipeline

/-! ## Instants -/

theorem toInt_after {epoch : Instant} {n : Nat} (h0 : 0 ≤ epoch.toInt)
    (h : epoch.toInt + n ≤ Int64.maxValue.toInt) :
    (epoch + Int64.ofNat n).toInt = epoch.toInt + n := by
  have hn : (Int64.ofNat n).toInt = n := Span.toInt_toInt64 (by omega)
  rw [Int64.toInt_add, hn]
  rw [Int64.toInt_maxValue] at h
  exact Int.bmod_eq_of_le (by omega) (by omega)

/-! ## Crews -/

structure Crew where
  place : Workplace
  /-- The wall clock at the instant at which the steady clock was zero. -/
  epoch : Instant
  clock : Nat := 0
  workers : List Worker
  /-- The reapers, each with the sweep that it is at. -/
  reapers : List (ReaperPolicy × Sweep)

/-- What can happen in a crew. -/
inductive CrewEvent where
  /-- A worker does its next step. -/
  | work (i : Nat)
  /-- A worker gives the sign of life that is due. -/
  | sign (i : Nat)
  /-- The shutdown of a worker begins. -/
  | shutdown (i : Nat)
  /-- A reaper begins a sweep. -/
  | begin (i : Nat)
  /-- A reaper does its next step. -/
  | sweep (i : Nat)
  /-- Somebody else calls the store. -/
  | call (c : Call)
  /-- Everything but the store is replaced. -/
  | equip (place : Workplace)
  /-- Time passes up to an instant. -/
  | pass (clock : Nat)

/-- The call may come from outside: it takes no part in the work itself. -/
def Call.isOutside (s : Store) : Call → Bool
  | .create id _ _ => !s.ids.contains id
  | .resolve _ _ _ | .reopen _ | .cancel _ => true
  | c => c.isQuery

namespace Crew

def clocks (c : Crew) : Clocks := ⟨c.epoch + Int64.ofNat c.clock, c.clock⟩

def now (c : Crew) : Instant := c.clocks.now

def withStore (c : Crew) (s : Store) : Crew := { c with place := { c.place with store := s } }

/-- Puts a worker in its place, and the workplace as it leaves it. -/
def after (c : Crew) (i : Nat) (step : Worker × Workplace) : Crew :=
  { c with place := step.2, workers := c.workers.set i step.1 }

/-- Nobody is late at an instant, and the wall clock reaches it. -/
def reaches (c : Crew) (t : Nat) : Bool :=
  c.clock ≤ t && c.epoch.toInt + t ≤ Int64.maxValue.toInt &&
    c.workers.all fun x => (x.wake c.clock).all fun k => t ≤ k.due

/-- The crew after an event; none if the event cannot happen. -/
def step (c : Crew) : CrewEvent → Option Crew
  | .work i => do c.after i ((← c.workers[i]?).step c.clocks c.place)
  | .sign i => do c.after i ((← c.workers[i]?).sign c.clocks c.place)
  | .shutdown i => do
    return { c with workers := c.workers.set i { (← c.workers[i]?) with cancelled := true } }
  | .begin i => do
    return { c with reapers := c.reapers.set i ((← c.reapers[i]?).1, .reclaiming) }
  | .sweep i => do
    let (policy, sweep) ← c.reapers[i]?
    let (sweep, store, notices) := sweep.step policy c.now c.place.store c.place.notices
    return { c with
      place := { c.place with store := store, notices := notices }
      reapers := c.reapers.set i (policy, sweep) }
  | .call call =>
    if call.isOutside c.place.store then some (c.withStore (c.place.store.perform c.now call).2)
    else none
  | .equip place => some { c with place := { place with store := c.place.store } }
  | .pass t => if c.reaches t then some { c with clock := t } else none

/-- The crew after several events. -/
def run (c : Crew) (events : List CrewEvent) : Option Crew := events.foldlM step c

def policies (c : Crew) : List ReaperPolicy := c.reapers.map (·.1)

/-- Each worker gives signs of life at least as often as each reaper demands. -/
def Paced (c : Crew) : Prop :=
  ∀ x ∈ c.workers, ∀ p ∈ c.policies,
    x.policy.heartbeatInterval ≤ p.staleAfter ∧ (p.staleAfter : Int) ≤ Int64.maxValue.toInt

/-- A crew before its work: no attempt is open. -/
structure Fresh (c : Crew) : Prop where
  keyed : c.place.store.Keyed
  free : ∀ x ∈ c.workers, x.attempt? = none
  epoch : 0 ≤ c.epoch.toInt
  clock : c.epoch.toInt + c.clock ≤ Int64.maxValue.toInt
  paced : c.Paced

end Crew

/-- The task is the one that a worker is at, in the same attempt. -/
structure Task.RunBy (v : Task) (x : Worker) (r : Task) : Prop where
  status : v.status = .running
  attempt : v.attemptCount = r.attemptCount
  holder : v.claimedBy = some x.id

namespace Crew

/-! ## The invariant -/

/-- A worker with an open attempt holds its task, and the last sign of life covers the silence that
it may keep. -/
structure Manned (c : Crew) (x : Worker) (r v : Task) : Prop where
  found : c.place.store.task? r.id = some v
  runs : v.RunBy x r
  early : c.clock ≤ x.pledge c.clock
  covered : c.epoch.toInt + x.pledge c.clock ≤ v.updatedAt.toInt + x.policy.heartbeatInterval

structure Inv (c : Crew) : Prop where
  keyed : c.place.store.Keyed
  epoch : 0 ≤ c.epoch.toInt
  clock : c.epoch.toInt + c.clock ≤ Int64.maxValue.toInt
  paced : c.Paced
  manned : ∀ {i : Nat} {x : Worker} {r : Task}, c.workers[i]? = some x → x.attempt? = some r →
    ∃ v, c.Manned x r v
  /-- No two open attempts are about one task. -/
  apart : ∀ {i j : Nat} {x y : Worker} {r q : Task}, c.workers[i]? = some x →
    c.workers[j]? = some y → x.attempt? = some r → y.attempt? = some q → r.id = q.id → i = j

variable {c c' : Crew} {i : Nat} {x x' : Worker} {r v : Task}

theorem toInt_now (h : c.Inv) : c.now.toInt = c.epoch.toInt + c.clock :=
  toInt_after h.epoch h.clock

theorem inv_fresh (h : c.Fresh) : c.Inv where
  keyed := h.keyed
  epoch := h.epoch
  clock := h.clock
  paced := h.paced
  manned hx hr := nomatch (h.free _ (List.mem_of_getElem? hx)).symm.trans hr
  apart hx _ hr _ _ := nomatch (h.free _ (List.mem_of_getElem? hx)).symm.trans hr

/-- **The task of a live worker is never stale.** -/
theorem Inv.fresh_task (h : c.Inv) (hx : c.workers[i]? = some x) (hm : c.Manned x r v)
    {p : ReaperPolicy} (hp : p ∈ c.policies) :
    MemoryStore.isStale (c.now - p.staleAfter.toInt64) v = false := by
  obtain ⟨hpace, hfits⟩ := h.paced x (List.mem_of_getElem? hx) p hp
  have hpace : (x.policy.heartbeatInterval : Int) ≤ p.staleAfter := Int.ofNat_le.mpr hpace
  have hnow := toInt_now h
  have h0 := h.epoch
  have hcutoff : (c.now - p.staleAfter.toInt64).toInt = c.now.toInt - p.staleAfter :=
    toInt_before hfits (by rw [Int64.toInt_minValue]; rw [Int64.toInt_maxValue] at hfits; omega)
  have hearly := hm.early
  have hcovered := hm.covered
  have hle : ¬v.updatedAt < c.now - p.staleAfter.toInt64 := by
    rw [Int64.lt_iff_toInt_lt, hcutoff, hnow]
    omega
  rw [MemoryStore.isStale, decide_eq_false hle, Bool.and_false]

/-! ### Events beside the workers -/

/-- What leaves the workers and their tasks alone keeps the invariant. -/
theorem Inv.beside (h : c.Inv) (hworkers : c'.workers = c.workers) (hclock : c'.clock = c.clock)
    (hepoch : c'.epoch = c.epoch) (hpolicies : c'.policies = c.policies)
    (hkeyed : c'.place.store.Keyed)
    (htasks : ∀ {i : Nat} {x : Worker} {r v : Task}, c.workers[i]? = some x →
      x.attempt? = some r → c.Manned x r v → c'.place.store.task? r.id = some v) : c'.Inv where
  keyed := hkeyed
  epoch := by rw [hepoch]; exact h.epoch
  clock := by rw [hepoch, hclock]; exact h.clock
  paced := by rw [Paced, hworkers, hpolicies]; exact h.paced
  manned {i x r} hx hr := by
    rw [hworkers] at hx
    obtain ⟨v, hm⟩ := h.manned hx hr
    exact ⟨v, htasks hx hr hm, hm.runs, by rw [hclock]; exact hm.early,
      by rw [hclock, hepoch]; exact hm.covered⟩
  apart hx hy hr hq he := by
    rw [hworkers] at hx hy
    exact h.apart hx hy hr hq he

theorem policies_set (c : Crew) {p : ReaperPolicy} {s : Sweep} (hi : c.reapers[i]? = some (p, s))
    (s' : Sweep) : (c.reapers.set i (p, s')).map (·.1) = c.policies := by
  obtain ⟨hlt, hget⟩ := List.getElem?_eq_some_iff.mp hi
  have hmap : i < (c.reapers.map (·.1)).length := by simpa using hlt
  have hp : p = (c.reapers.map (·.1))[i] := by simp [hget]
  rw [List.map_set]
  dsimp only
  rw [hp, List.set_getElem_self]
  rfl

/-- No sweep takes a task from a live worker. -/
theorem Inv.sweep (h : c.Inv) (hc' : c.step (.sweep i) = some c') : c'.Inv := by
  cases hi : c.reapers[i]? with
  | none => simp [step, hi] at hc'
  | some r =>
    obtain ⟨p, sweep⟩ := r
    have hp : p ∈ c.policies := List.mem_map.mpr ⟨_, List.mem_of_getElem? hi, rfl⟩
    obtain ⟨sweep', s', sent, hstep, hacts⟩ :=
      Sweep.acts_step h.keyed p c.now sweep c.place.notices
    simp only [step, hi, hstep, Option.bind_eq_bind, Option.bind_some, Option.pure_def,
      Option.some.injEq] at hc'
    subst hc'
    refine h.beside rfl rfl rfl (policies_set c hi sweep') ?_ ?_
    · exact h.keyed.of_ids hacts.ids
    · intro j y q v hy _ hm
      exact hacts.running hm.found hm.runs.status (h.fresh_task hy hm hp)

/-- An operation from outside is about a task that nobody holds. -/
theorem isHeld_of_outside {s : Store} {call : Call} {id : TaskId} {op : Operation}
    {now : Instant} {t u : Task} (hcall : call.isOutside s = true)
    (hasks : call.asks = some (id, op)) (hmoves : t.Moves now op u) : t.status.isHeld = false := by
  cases call with
  | resolve | reopen | cancel => cases hasks; cases hmoves <;> simp_all [TaskStatus.isHeld]
  | claim | start | touch | recordOutcome => cases hcall
  | _ => cases hasks

theorem Inv.asked (h : c.Inv) {call : Call} (hcall : call.isOutside c.place.store = true)
    {id : TaskId} {op : Operation} (hasks : call.asks = some (id, op)) :
    (c.withStore (c.place.store.perform c.now call).2).Inv := by
  have hop : ∀ worker, op ≠ .claim worker := by
    rintro worker rfl
    cases call <;> cases hasks
    cases hcall
  have hasked : c.place.store.Asked c.now id op (c.place.store.perform c.now call) :=
    Store.asked_perform c.place.store hasks hop
  rcases hasked.same_or_puts with
    hsame | ⟨t, u, ht, hmoves, hu, hputs⟩
  · rw [hsame]
    exact h.beside rfl rfl rfl rfl h.keyed fun _ _ hm => hm.found
  · refine h.beside rfl rfl rfl rfl (h.keyed.of_ids hputs.ids) ?_
    intro j y r v _ _ hm
    have hne : r.id ≠ u.id := by
      intro he
      rw [hu] at he
      rw [← he, hm.found] at ht
      cases ht
      have hheld := isHeld_of_outside hcall hasks hmoves
      rw [hm.runs.status] at hheld
      cases hheld
    exact (hputs.other hne).trans hm.found

/-- What runs is stored under another id than a new task. -/
theorem Inv.create (h : c.Inv) {id : TaskId} (hnew : id ∉ c.place.store.ids) (new : NewTask)
    (asked : UInt32) : (c.withStore (c.place.store.create id new asked c.now).2).Inv := by
  refine h.beside rfl rfl rfl rfl ?_ ?_
  · show (c.place.store.create id new asked c.now).2.ids.Nodup
    rw [Store.ids_create]
    exact List.nodup_append.mpr ⟨h.keyed, by simp, by
      rintro a ha b hb rfl
      exact hnew (List.mem_singleton.mp hb ▸ ha)⟩
  · intro j y r v _ _ hm
    have hne : r.id ≠ id := fun he => hnew (he ▸ Store.mem_ids_of_task? hm.found)
    exact (Store.task?_create hne new asked c.now).trans hm.found

theorem Inv.query (h : c.Inv) {call : Call} (hquery : call.isQuery = true) :
    (c.withStore (c.place.store.perform c.now call).2).Inv := by
  have hsame := Store.same_perform c.place.store hquery c.now
  exact h.beside rfl rfl rfl rfl (h.keyed.of_ids hsame.ids) fun {_ _ r _} _ _ hm =>
    (congrFun hsame.task? r.id).trans hm.found

/-- A call from outside changes no task that runs. -/
theorem Inv.call (h : c.Inv) {call : Call} (hcall : call.isOutside c.place.store = true) :
    (c.withStore (c.place.store.perform c.now call).2).Inv := by
  cases hasks : call.asks with
  | some a => exact h.asked hcall hasks
  | none =>
    by_cases hquery : call.isQuery = true
    · exact h.query hquery
    · cases call with
      | create id new asked =>
        have hnew : id ∉ c.place.store.ids := by simpa [Call.isOutside] using hcall
        exact h.create hnew new asked
      | claim | start | touch | recordOutcome | resolve | reopen | cancel => cases hasks
      | reclaimStale | expireDecisions => cases hcall
      | _ => exact absurd rfl hquery

/-- Time passes only as far as the silence of every worker is covered. -/
theorem Inv.pass (h : c.Inv) {t : Nat} (ht : c.reaches t = true) : ({ c with clock := t }).Inv := by
  simp only [reaches, Bool.and_eq_true, decide_eq_true_eq, List.all_eq_true] at ht
  obtain ⟨⟨hle, hfits⟩, hwake⟩ := ht
  refine ⟨h.keyed, h.epoch, hfits, h.paced, ?_, h.apart⟩
  intro i x r hx hr
  obtain ⟨v, hm⟩ := h.manned hx hr
  have hlate : ∀ k, x.wake c.clock = some k → t ≤ k.due := by
    intro k hk
    have hall := hwake x (List.mem_of_getElem? hx)
    rw [hk] at hall
    simpa using hall
  obtain ⟨hpledge, hcases⟩ := Worker.pledge_of_pass hr hle hlate
  have hearly := hm.early
  refine ⟨v, hm.found, hm.runs, ?_, ?_⟩
  · show t ≤ x.pledge t
    rw [hpledge]
    rcases hcases with rfl | hcases <;> assumption
  · show c.epoch.toInt + x.pledge t ≤ _
    rw [hpledge]
    exact hm.covered

/-! ### Steps of the workers -/

theorem getElem?_after {step : Worker × Workplace} {j : Nat} {y : Worker}
    (hx : c.workers[i]? = some x) (hy : (c.after i step).workers[j]? = some y) :
    j = i ∧ y = step.1 ∨ j ≠ i ∧ c.workers[j]? = some y := by
  have hlt : i < c.workers.length := (List.getElem?_eq_some_iff.mp hx).1
  by_cases hj : j = i
  · subst hj
    refine .inl ⟨rfl, ?_⟩
    simpa [after, hlt] using hy.symm
  · refine .inr ⟨hj, ?_⟩
    simpa [after, List.getElem?_set_ne (Ne.symm hj)] using hy

/-- A worker may do what leaves the tasks of the others alone and keeps its own covered. -/
theorem Inv.replace (h : c.Inv) (hx : c.workers[i]? = some x) {step : Worker × Workplace}
    (hpolicy : step.1.policy = x.policy) (hids : step.2.store.ids = c.place.store.ids)
    (hown : ∀ r, step.1.attempt? = some r → ∃ v, (c.after i step).Manned step.1 r v)
    (hothers : ∀ {j : Nat} {y : Worker} {q v : Task}, j ≠ i → c.workers[j]? = some y →
      y.attempt? = some q → c.Manned y q v → step.2.store.task? q.id = some v ∧
        ∀ r, step.1.attempt? = some r → r.id ≠ q.id) : (c.after i step).Inv where
  keyed := h.keyed.of_ids hids
  epoch := h.epoch
  clock := h.clock
  paced := by
    intro y hy p hp
    rcases List.mem_or_eq_of_mem_set hy with hy | rfl
    · exact h.paced y hy p hp
    · rw [hpolicy]
      exact h.paced x (List.mem_of_getElem? hx) p hp
  manned {j y q} hy hq := by
    rcases getElem?_after hx hy with ⟨rfl, rfl⟩ | ⟨hj, hy⟩
    · exact hown q hq
    · obtain ⟨v, hm⟩ := h.manned hy hq
      exact ⟨v, (hothers hj hy hq hm).1, hm.runs, hm.early, hm.covered⟩
  apart {j k y z q r} hy hz hq hr he := by
    rcases getElem?_after hx hy with ⟨hj, rfl⟩ | ⟨hj, hy⟩ <;>
      rcases getElem?_after hx hz with ⟨hk, rfl⟩ | ⟨hk, hz⟩
    · rw [hj, hk]
    · obtain ⟨v, hm⟩ := h.manned hz hr
      exact absurd he ((hothers hk hz hr hm).2 q hq)
    · obtain ⟨v, hm⟩ := h.manned hy hq
      exact absurd he.symm ((hothers hj hy hq hm).2 r hr)
    · exact h.apart hy hz hq hr he

section Worker

variable {step : Worker × Workplace}

/-- The task of a live worker is not the one that another worker is at. -/
theorem Inv.ne_of_ne (h : c.Inv) (hx : c.workers[i]? = some x) (hr : x.attempt? = some r) {j : Nat}
    {y : Worker} {q : Task} (hj : j ≠ i) (hy : c.workers[j]? = some y) (hq : y.attempt? = some q) :
    r.id ≠ q.id := fun he => hj (h.apart hx hy hr hq he).symm

/-- A worker that goes on with its attempt keeps its silence covered. -/
theorem Inv.keeps (h : c.Inv) (hx : c.workers[i]? = some x) (hid : step.1.id = x.id)
    (hpolicy : step.1.policy = x.policy) (hstore : step.2.store = c.place.store)
    (hr : x.attempt? = some r) (hr' : step.1.attempt? = some r)
    (hpledge : step.1.pledge c.clock = x.pledge c.clock ∨ step.1.pledge c.clock = c.clock) :
    (c.after i step).Inv := by
  refine h.replace hx hpolicy (by rw [hstore]) ?_ ?_
  · intro q hq
    cases hr'.symm.trans hq
    obtain ⟨v, hm⟩ := h.manned hx hr
    have hearly := hm.early
    have hcovered := hm.covered
    refine ⟨v, ?_, ⟨hm.runs.status, hm.runs.attempt, by rw [hid]; exact hm.runs.holder⟩, ?_, ?_⟩
    · show step.2.store.task? r.id = some v
      rw [hstore]
      exact hm.found
    · show c.clock ≤ step.1.pledge c.clock
      omega
    · show c.epoch.toInt + step.1.pledge c.clock ≤ _
      rw [hpolicy]
      omega
  · intro j y q v hj hy hq hm
    refine ⟨by rw [hstore]; exact hm.found, ?_⟩
    intro r' hr''
    cases hr'.symm.trans hr''
    exact h.ne_of_ne hx hr hj hy hq

/-- A worker without an open attempt before and after changes nobody's running task. -/
theorem Inv.idles (h : c.Inv) (hx : c.workers[i]? = some x) (hpolicy : step.1.policy = x.policy)
    (hr' : step.1.attempt? = none) (hids : step.2.store.ids = c.place.store.ids)
    (hothers : ∀ {j : Nat} {y : Worker} {q v : Task}, j ≠ i → c.workers[j]? = some y →
      y.attempt? = some q → c.Manned y q v → step.2.store.task? q.id = some v) :
    (c.after i step).Inv := by
  refine h.replace hx hpolicy hids (fun q hq => nomatch hr'.symm.trans hq) ?_
  intro j y q v hj hy hq hm
  exact ⟨hothers hj hy hq hm, fun r hr => nomatch hr'.symm.trans hr⟩

/-- A worker starts a task that it has claimed. -/
theorem Inv.opens (h : c.Inv) (hx : c.workers[i]? = some x) (hid : step.1.id = x.id)
    (hpolicy : step.1.policy = x.policy) {t : Task} (hr' : step.1.attempt? = some r)
    (ht : c.place.store.task? r.id = some t) (hmoves : t.Moves c.now (.start x.id) r)
    (hputs : c.place.store.Puts r step.2.store)
    (hpledge : step.1.pledge c.clock = c.clock + x.policy.heartbeatInterval) :
    (c.after i step).Inv := by
  have hnow := toInt_now h
  cases hmoves with
  | start _ hclaimed hholder _ =>
    refine h.replace hx hpolicy hputs.ids ?_ ?_
    · intro q hq
      cases hr'.symm.trans hq
      refine ⟨_, hputs.self, ⟨rfl, rfl, by rw [hid]; exact hholder⟩, ?_, ?_⟩
      · show c.clock ≤ step.1.pledge c.clock
        rw [hpledge]
        exact Nat.le_add_right _ _
      · show c.epoch.toInt + step.1.pledge c.clock ≤ c.now.toInt + _
        rw [hpledge, hpolicy, hnow]
        omega
    · intro j y q v _ _ _ hm
      have hne : q.id ≠ t.id := by
        intro he
        have hv := ht.symm.trans (he ▸ hm.found)
        cases hv
        exact nomatch hclaimed.symm.trans hm.runs.status
      refine ⟨(hputs.other hne).trans hm.found, ?_⟩
      intro r' hr''
      cases hr'.symm.trans hr''
      exact Ne.symm hne

/-- A sign of life covers another interval of silence. -/
theorem Inv.signs (h : c.Inv) (hx : c.workers[i]? = some x) (hid : step.1.id = x.id)
    (hpolicy : step.1.policy = x.policy) (hr : x.attempt? = some r)
    (hr' : step.1.attempt? = some r) (hdue : x.pledge c.clock ≤ c.clock)
    (hpledge : step.1.pledge c.clock = x.pledge c.clock + x.policy.heartbeatInterval)
    (hstore : step.2.store = (c.place.store.touch r.id x.id c.now).2) : (c.after i step).Inv := by
  have hnow := toInt_now h
  obtain ⟨v, hm⟩ := h.manned hx hr
  have hheld : v.status.isHeld = true := by rw [hm.runs.status]; rfl
  have hputs : c.place.store.Puts { v with updatedAt := c.now }
      (c.place.store.touch r.id x.id c.now).2 := Store.touch_held hm.found hheld hm.runs.holder
  rw [← hstore] at hputs
  have hv : v.id = r.id := Store.id_of_task? hm.found
  refine h.replace hx hpolicy hputs.ids ?_ ?_
  · intro q hq
    cases hr'.symm.trans hq
    have hearly := hm.early
    refine ⟨{ v with updatedAt := c.now }, ?_,
      ⟨hm.runs.status, hm.runs.attempt, by rw [hid]; exact hm.runs.holder⟩, ?_, ?_⟩
    · rw [← hv]
      exact hputs.self
    · show c.clock ≤ step.1.pledge c.clock
      omega
    · show c.epoch.toInt + step.1.pledge c.clock ≤ c.now.toInt + _
      rw [hpledge, hpolicy, hnow]
      omega
  · intro j y q w hj hy hq hw
    have hne := h.ne_of_ne hx hr hj hy hq
    refine ⟨(hputs.other (hv ▸ Ne.symm hne)).trans hw.found, ?_⟩
    intro r' hr''
    cases hr'.symm.trans hr''
    exact hne

/-- A worker settles its own attempt. -/
theorem Inv.settles (h : c.Inv) (hx : c.workers[i]? = some x) (hpolicy : step.1.policy = x.policy)
    (hr : x.attempt? = some r) (hr' : step.1.attempt? = none) {decision : Decision}
    (hstore : step.2.store =
      (c.place.store.recordOutcome r.id r.attemptCount decision c.now).2) :
    (c.after i step).Inv := by
  rcases Store.recordOutcome_cases c.place.store r.id r.attemptCount decision c.now with
    ⟨e, hrecord⟩ | ⟨t, u, a, s', ht, hsettle, hputs, hrecord⟩
  · rw [hrecord] at hstore
    exact h.idles hx hpolicy hr' (by rw [hstore]) fun _ _ _ hm => by rw [hstore]; exact hm.found
  · rw [hrecord] at hstore
    dsimp only at hstore
    subst hstore
    have hu : u.id = r.id := (Task.settle_eq_ok hsettle).1.keeps.1.trans (Store.id_of_task? ht)
    refine h.idles hx hpolicy hr' hputs.ids fun hj hy hq hm => ?_
    exact (hputs.other (hu ▸ Ne.symm (h.ne_of_ne hx hr hj hy hq))).trans hm.found

/-- **What a worker does in a step leaves every live worker its task.** -/
theorem Inv.after (h : c.Inv) (hx : c.workers[i]? = some x)
    (hid : step.1.id = x.id) (hpolicy : step.1.policy = x.policy)
    (hacts : Worker.Acts c.clocks c.place.store x step.1 step.2.store) : (c.after i step).Inv := by
  generalize hs' : step.2.store = s' at hacts
  cases hacts with
  | idle _ hr' hsame =>
    refine h.idles hx hpolicy hr' (by rw [hs', hsame.ids]) fun _ _ _ hm => ?_
    rw [hs', hsame.task?]
    exact hm.found
  | @claims _ t _ hr' hputs hstatus hbefore =>
    refine h.idles hx hpolicy hr' (by rw [hs', hputs.ids]) fun {_ _ q v} _ _ _ hm => ?_
    have hne : q.id ≠ t.id := by
      intro he
      exact nomatch (hbefore v (he ▸ hm.found)).symm.trans hm.runs.status
    rw [hs', hputs.other hne]
    exact hm.found
  | opens _ hr' ht hmoves hputs hpledge =>
    exact h.opens hx hid hpolicy hr' ht hmoves (hs' ▸ hputs) hpledge
  | keeps hr hr' hpledge => exact h.keeps hx hid hpolicy hs' hr hr' hpledge
  | signs hr hr' hdue hpledge => exact h.signs hx hid hpolicy hr hr' hdue hpledge hs'
  | settles decision hr hr' => exact h.settles hx hpolicy hr hr' hs'
  | drops _ hr' =>
    exact h.idles hx hpolicy hr' (by rw [hs']) fun _ _ _ hm => by rw [hs']; exact hm.found

end Worker

/-! ### Runs -/

/-- **Every event keeps the invariant.** -/
theorem inv_step (h : c.Inv) {event : CrewEvent} (hc' : c.step event = some c') : c'.Inv := by
  cases event with
  | work i =>
    obtain ⟨x, hx, hc'⟩ := Option.bind_eq_some_iff.mp hc'
    cases hc'
    obtain ⟨hid, hpolicy⟩ := x.step_same c.clocks c.place
    exact h.after hx hid hpolicy (x.acts_step c.clocks c.place)
  | sign i =>
    obtain ⟨x, hx, hc'⟩ := Option.bind_eq_some_iff.mp hc'
    cases hc'
    obtain ⟨hid, hpolicy⟩ := x.sign_same c.clocks c.place
    exact h.after hx hid hpolicy (x.acts_sign c.clocks c.place)
  | shutdown i =>
    obtain ⟨x, hx, hc'⟩ := Option.bind_eq_some_iff.mp hc'
    cases hc'
    have hattempt : ({ x with cancelled := true } : Worker).attempt? = x.attempt? := rfl
    have hstep : (c.after i ({ x with cancelled := true }, c.place)).Inv := by
      refine h.after hx rfl rfl ?_
      cases hr : x.attempt? with
      | none => exact .idle hr (hattempt.trans hr) (.refl _)
      | some r => exact .keeps hr (hattempt.trans hr) (.inl rfl)
    exact hstep
  | begin i =>
    obtain ⟨⟨p, sweep⟩, hi, hc'⟩ := Option.bind_eq_some_iff.mp hc'
    cases hc'
    exact h.beside rfl rfl rfl (policies_set c hi .reclaiming) h.keyed fun _ _ hm => hm.found
  | sweep i => exact h.sweep hc'
  | call call =>
    simp only [step] at hc'
    split at hc'
    · next hcall => cases hc'; exact h.call hcall
    · cases hc'
  | equip place =>
    cases hc'
    exact h.beside rfl rfl rfl rfl h.keyed fun _ _ hm => hm.found
  | pass t =>
    simp only [step] at hc'
    split at hc'
    · next ht => cases hc'; exact h.pass ht
    · cases hc'

theorem inv_run {events : List CrewEvent} (h : c.Inv) (hc' : c.run events = some c') : c'.Inv := by
  induction events generalizing c with
  | nil => cases hc'; exact h
  | cons event events ih =>
    obtain ⟨c₁, hc₁, hc'⟩ := Option.bind_eq_some_iff.mp hc'
    exact ih (inv_step h hc₁) hc'

/-! ## Main statement -/

/-- Every worker with an open attempt holds its task, a sweep that begins now takes none of these
tasks, and no outcome that is recorded now counts as settled before. -/
structure Undisturbed (c : Crew) : Prop where
  held : ∀ x ∈ c.workers, ∀ r, x.attempt? = some r →
    ∃ v, c.place.store.task? r.id = some v ∧ v.RunBy x r
  spared : ∀ x ∈ c.workers, ∀ r, x.attempt? = some r → ∀ p ∈ c.policies, ∀ reports,
    (c.place.store.reclaimStale (c.now - p.staleAfter.toInt64) c.now).1 = .ok reports →
      r.id ∉ reports.map (·.1)
  settles : ∀ x ∈ c.workers, ∀ r, x.attempt? = some r → ∀ decision u,
    (c.place.store.recordOutcome r.id r.attemptCount decision c.now).1 ≠ .ok (.duplicate, u)

theorem Inv.undisturbed (h : c.Inv) : c.Undisturbed where
  held x hx r hr := by
    obtain ⟨i, hi⟩ := List.mem_iff_getElem?.mp hx
    obtain ⟨v, hm⟩ := h.manned hi hr
    exact ⟨v, hm.found, hm.runs⟩
  spared x hx r hr p hp reports hreports := by
    obtain ⟨i, hi⟩ := List.mem_iff_getElem?.mp hx
    obtain ⟨v, hm⟩ := h.manned hi hr
    rcases Store.reclaimStale_cases h.keyed (c.now - p.staleAfter.toInt64) c.now with
      ⟨e, hstep⟩ | ⟨reports', s', hstep, hreaps⟩
    · rw [hstep] at hreports
      cases hreports
    · rw [hstep] at hreports
      cases hreports
      intro hmem
      obtain ⟨t, _, _, ht, _, hstale, _⟩ := (hreaps.each r.id).of_mem hmem
      cases hm.found.symm.trans ht
      exact nomatch (h.fresh_task hi hm hp).symm.trans hstale
  settles x hx r hr decision u hrecord := by
    obtain ⟨i, hi⟩ := List.mem_iff_getElem?.mp hx
    obtain ⟨v, hm⟩ := h.manned hi hr
    rcases Store.recordOutcome_cases c.place.store r.id r.attemptCount decision c.now with
      ⟨e, hstep⟩ | ⟨t, w, a, s', ht, hsettle, _, hstep⟩
    · rw [hstep] at hrecord
      cases hrecord
    · rw [hstep] at hrecord
      cases hrecord
      cases hm.found.symm.trans ht
      rcases (Task.settle_eq_ok hsettle).2 with ⟨_, hlate⟩ | ⟨happlied, _⟩
      · exact hlate ⟨hm.runs.status, hm.runs.attempt⟩
      · cases happlied

/-- **The reaper never takes a task from a live worker**, in no run of a crew whose workers give
signs of life often enough. -/
theorem undisturbed_run (h : c.Fresh) {events : List CrewEvent} (hc' : c.run events = some c') :
    c'.Undisturbed := (inv_run (inv_fresh h) hc').undisturbed

/-- A worker is about to claim a task that keeps it busy for a while, and its signs of life are as far
apart as two reapers allow. -/
def edge : Crew where
  place := {
    store := .memory { tasks := [.create "a" ⟨.impl, "build", none, none⟩ 3 0] }
    gateway := {
      registry := Registry.register {} .impl (.ofReports "slow" [] ⟨true, "ok", none⟩ 1500)
      defaultLimit := 5000 }
    policy := .ofSettings {} }
  epoch := 0
  workers := [{
    id := "w"
    policy := .ofSettings { heartbeatSecs := 1 }
    phase := .polling (.claiming [.create "a" ⟨.impl, "build", none, none⟩ 3 0]) }]
  reapers := [(.ofSettings { staleAfterSecs := 1 }, .reclaiming),
    (.ofSettings { staleAfterSecs := 1 }, .reclaiming)]

/-- One reaper sweeps just before the sign of life and one just after it, all at one instant. -/
def edgeEvents : List CrewEvent :=
  [.work 0, .work 0, .work 0, .pass 1000, .sweep 0, .work 0, .sweep 1]

theorem fresh_edge : edge.Fresh where
  keyed := by decide
  free := by simp [edge, Worker.attempt?, Poll.attempt?]
  epoch := by decide
  clock := by decide
  paced := by
    intro x hx p hp
    simp [edge, policies] at hx hp
    subst hx hp
    decide

theorem undisturbed_run_edge :
    edge.Fresh ∧ ∃ c', edge.run edgeEvents = some c' ∧
      c'.workers.map (fun x => x.attempt?.map (·.id)) = [some "a"] ∧
      c'.reapers.map (fun r => r.2 matches .expiring 1000 ⟨[], [], []⟩) = [true, true] ∧
      (c'.place.store.task? "a").map (fun v => (v.status, v.updatedAt)) = some (.running, 1000) ∧
      c'.Undisturbed := by
  have hrun : (edge.run edgeEvents).isSome = true := by decide
  exact ⟨fresh_edge, (edge.run edgeEvents).get hrun, (Option.some_get hrun).symm, rfl, rfl, rfl,
    undisturbed_run fresh_edge (Option.some_get hrun).symm⟩

end Crew

end TaskPipeline
