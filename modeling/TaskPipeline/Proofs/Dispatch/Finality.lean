import TaskPipeline.Proofs.Dispatch.Floor
import TaskPipeline.Proofs.Store.Passage

/-!
# Cancelled and completed tasks are final

A pending task that is cancelled and a completed one make no move that changes them
(`Task.Moves.of_final`), so no call changes what a store holds of them (`final_perform`). On a floor
nothing that workers and others do from then on changes such a task or starts it, whatever the
workers have read before, and only who had started it before may still launch it (`final_stays`),
as a worker does whose task is reclaimed and cancelled in between (`launched_after_cancel`).
-/

namespace TaskPipeline

/-! ## Tasks -/

namespace Task

/-- The task is completed, or it was cancelled while it waited. -/
def IsFinal (t : Task) : Prop := t.status = .completed ∨ t.status = .pending ∧ t.cancelled = true

variable {t u : Task} {now : Instant} {op : Operation}

theorem IsFinal.not_isHeld (h : t.IsFinal) : t.status.isHeld = false := by
  rcases h with h | ⟨h, _⟩ <;> rw [h] <;> rfl

theorem IsFinal.not_isClaimable (h : t.IsFinal) (now : Instant) : t.isClaimable now = false := by
  rcases h with h | ⟨_, h⟩ <;> simp [isClaimable, h]

/-- **No operation changes a final task.** -/
theorem Moves.of_final (h : t.Moves now op u) (hf : t.IsFinal) : u = t := by
  cases h with
  | claim _ hc => cases hc.symm.trans (hf.not_isClaimable now)
  | touch _ hheld => cases hheld.symm.trans hf.not_isHeld
  | late => rfl
  | cancel hs hc =>
    rcases hf with hf | ⟨_, hf⟩
    · cases hs.symm.trans hf
    · cases hc.symm.trans hf
  | start _ hs | complete _ hs | retry _ _ _ hs | fail _ hs | escalate _ hs | resume _ hs
  | dismiss _ hs | reopen hs | release hs | requeue hs | abandon hs | expire hs =>
    rcases hf with hf | ⟨hf, _⟩ <;> cases hs.symm.trans hf

end Task

/-! ## Stores -/

namespace Store

/-- The task with the id has just been cancelled, or it is completed. -/
inductive Finished (s : Store) (id : TaskId) : Prop where
  | cancelled {s₀ : Store} {now : Instant} {t : Task} : s₀.cancel id now = (.ok t, s) →
      Finished s id
  | completed {t : Task} : s.task? id = some t → t.status = .completed → Finished s id

variable {s : Store} {id : TaskId} {t : Task} {now : Instant} {c : Call}

/-- A task that was cancelled with success is there to be read. -/
theorem Finished.final (h : s.Finished id) : ∃ t, s.task? id = some t ∧ t.IsFinal := by
  cases h with
  | @cancelled s₀ now t hcancel =>
    have hasked : s₀.Asked now id .cancel (answered .task (s₀.cancel id now)) :=
      asked_perform s₀ (c := .cancel id) rfl (by simp)
    rcases hasked.answered with ⟨e, hstep, _⟩ | ⟨v, u, a, s', hv, hc, hputs, hstep⟩
    · cases hcancel.symm.trans hstep
    · cases hcancel.symm.trans hstep
      have hmoves := Task.moves_of_carry hc
      have hid : u.id = id := hmoves.keeps.1.trans (id_of_task? hv)
      refine ⟨u, hid ▸ hputs.self, ?_⟩
      cases hmoves with
      | cancel hpending _ => exact .inr ⟨hpending, rfl⟩
  | completed ht hs => exact ⟨_, ht, .inl hs⟩

theorem Passes.final {v w : Option Task} (h : Passes now id c v w) (hv : v = some t)
    (hf : t.IsFinal) : w = some t := by
  cases h with
  | stays => exact hv
  | made | appears => cases hv
  | moves _ hmoves =>
    cases hv
    rw [hmoves.of_final hf]

/-- No call changes a final task. -/
theorem final_perform (hk : s.Keyed) (hc : c.isFresh s = true) (ht : s.task? id = some t)
    (hf : t.IsFinal) (now : Instant) : (s.perform now c).2.task? id = some t :=
  (passes_perform hk c (Call.unused_of_isFresh hc) now id).final ht hf

theorem final_claim (ht : s.task? id = some t) (hf : t.IsFinal) (worker : WorkerId) (now : Instant)
    (u : Task) : (s.claim id worker now).1 ≠ .ok (.claimed u) := by
  rcases claim_cases s id worker now with ⟨_, hlost⟩ | ⟨v, _, hwins⟩
  · exact hlost u
  · cases (hwins.before t ht).1.symm.trans (hf.not_isClaimable now)

theorem final_start (ht : s.task? id = some t) (hf : t.IsFinal) (worker : WorkerId)
    (now : Instant) : ∃ e, s.start id worker now = (.error e, s) := by
  rcases start_cases s id worker now with hrefused | ⟨v, u, s', hv, hmoves, _, _⟩
  · exact hrefused
  · cases hv.symm.trans ht
    cases hmoves with
    | start _ hclaimed =>
      have hheld := hf.not_isHeld
      rw [hclaimed] at hheld
      cases hheld

end Store

/-! ## Workers -/

/-- A poll comes to launch a task only by starting it. -/
theorem Poll.launching_step {p : DispatchPolicy} {worker : WorkerId} {c : Clocks} {poll : Poll}
    {w : Workplace} {r : Task} (h : (poll.step p worker c w).1 = .launching r) :
    ∃ (i : TaskId) (s : Store), w.store.start i worker c.now = (.ok r, s) := by
  cases poll with
  | starting t =>
    rcases hstart : w.store.start t.id worker c.now with ⟨answer, s⟩
    simp only [step, hstart] at h
    cases answer with
    | ok u => cases h; exact ⟨t.id, s, hstart⟩
    | error e => cases e <;> cases h
  | gating =>
    simp only [step, gate] at h
    split at h
    · cases hopen : w.gateOpen <;> rw [hopen] at h <;> cases h
    · cases h
  | querying => simp only [step] at h; split at h <;> cases h
  | claiming candidates =>
    cases candidates with
    | nil => cases h
    | cons t rest => simp only [step, claimFirst] at h; split at h <;> cases h
  | launching t => simp only [step] at h; split at h <;> [cases h; (split at h <;> cases h)]
  | attempting a beat =>
    simp only [step, attend, giveSign] at h
    split at h <;> [cases h; (split at h <;> cases h)]
  | settling t outcome =>
    simp only [step, settle] at h
    split at h
    · cases h
    · cases h
    · next e _ => cases e <;> cases h
  | telling | ended | crashed => cases h

/-- The worker has started the task and will launch it in its next step. -/
def Worker.Launching (x : Worker) (r : Task) : Prop := x.phase = .polling (.launching r)

theorem Poll.launching_left {p : DispatchPolicy} {worker : WorkerId} {c : Clocks} {w : Workplace}
    {r r' : Task} : ((Poll.launching r).step p worker c w).1 ≠ .launching r' := by
  intro h
  simp only [step] at h
  split at h
  · cases h
  · split at h <;> cases h

theorem Worker.launching_left {x : Worker} {c : Clocks} {w : Workplace} {r r' : Task}
    (h : x.Launching r) : ¬(x.step c w).1.Launching r' := by
  rcases x.step_cases c w with ⟨_, hnothing⟩ | ⟨poll, hp, hstep⟩
  · intro h'
    rw [tasks, h'] at hnothing
    cases hnothing
  · cases h.symm.trans hp
    rw [hstep]
    exact fun h' => Poll.launching_left (WorkerPhase.polling.inj h')

theorem Worker.launching_step {x : Worker} {c : Clocks} {w : Workplace} {r : Task}
    (h : (x.step c w).1.Launching r) :
    ∃ (i : TaskId) (s : Store), w.store.start i x.id c.now = (.ok r, s) := by
  rcases x.step_cases c w with ⟨_, hnothing⟩ | ⟨poll, _, hstep⟩
  · rw [tasks, h] at hnothing
    cases hnothing
  · rw [Launching, hstep] at h
    exact Poll.launching_step (WorkerPhase.polling.inj h)

/-! ## Floors -/

namespace Floor

variable {f f' : Floor} {id : TaskId} {t : Task}

/-- An event on a floor makes at most one call of the store. -/
theorem store_step {event : FloorEvent} (h : f.step event = some f') :
    f'.place.store = f.place.store ∨ ∃ now c, c.isFresh f.place.store = true ∧
      f'.place.store = (f.place.store.perform now c).2 := by
  cases event with
  | work i c =>
    obtain ⟨x, hx, h⟩ := Option.bind_eq_some_iff.mp h
    cases h
    rcases x.store_step c f.place with hstore | ⟨poll, call, _, hcall, hstore⟩
    · exact .inl hstore
    · obtain ⟨_, _, _, hfresh⟩ := Poll.about_call? hcall
      exact .inr ⟨c.now, call, hfresh _, hstore⟩
  | poll i | shutdown i =>
    obtain ⟨x, hx, h⟩ := Option.bind_eq_some_iff.mp h
    cases h
    exact .inl rfl
  | call now c =>
    simp only [step] at h
    split at h
    · next hfresh => cases h; exact .inr ⟨now, c, hfresh, rfl⟩
    · cases h
  | equip place => cases h; exact .inl rfl

theorem keyed_step {event : FloorEvent} (hk : f.place.store.Keyed)
    (hf' : f.step event = some f') : f'.place.store.Keyed := by
  rcases store_step hf' with hstore | ⟨now, c, hfresh, hstore⟩
  · rw [hstore]
    exact hk
  · rw [hstore]
    exact (Store.keepsTypes_perform hk hfresh now).2

/-- The worker with the number is about to launch the task. -/
def Launching (f : Floor) (i : Nat) (r : Task) : Prop := ∃ x, f.workers[i]? = some x ∧ x.Launching r

/-- Of the workers only one is another after its step. -/
theorem Launching.of_after {i j : Nat} {r : Task} {step : Worker × Workplace}
    (h : (f.after j step).Launching i r) : f.Launching i r ∨ i = j ∧ step.1.Launching r := by
  obtain ⟨x, hx, hr⟩ := h
  have hx : (f.workers.set j step.1)[i]? = some x := hx
  rw [List.getElem?_set] at hx
  split at hx
  · next hj =>
    split at hx
    · cases hx; exact .inr ⟨hj.symm, hr⟩
    · cases hx
  · exact .inl ⟨x, hx, hr⟩

/-- A worker that comes to launch a task has just started it. -/
theorem launching_step {event : FloorEvent} (h : f.step event = some f') {i : Nat} {r : Task}
    (hr : f'.Launching i r) :
    f.Launching i r ∨ ∃ (j : TaskId) (worker : WorkerId) (now : Instant) (s : Store),
      f.place.store.start j worker now = (.ok r, s) := by
  cases event with
  | work j c =>
    obtain ⟨x, hx, h⟩ := Option.bind_eq_some_iff.mp h
    cases h
    rcases hr.of_after with hbefore | ⟨_, hlaunching⟩
    · exact .inl hbefore
    · obtain ⟨k, s, hstart⟩ := Worker.launching_step hlaunching
      exact .inr ⟨k, x.id, c.now, s, hstart⟩
  | poll j =>
    obtain ⟨x, hx, h⟩ := Option.bind_eq_some_iff.mp h
    cases h
    rcases hr.of_after with hbefore | ⟨_, hlaunching⟩
    · exact .inl hbefore
    · cases hlaunching
  | shutdown j =>
    obtain ⟨x, hx, h⟩ := Option.bind_eq_some_iff.mp h
    cases h
    rcases hr.of_after with hbefore | ⟨rfl, hlaunching⟩
    · exact .inl hbefore
    · exact .inl ⟨x, hx, hlaunching⟩
  | call now c =>
    simp only [step] at h
    split at h
    · cases h; exact .inl hr
    · cases h
  | equip place => cases h; exact .inl hr

/-- The launch that an event is: by which worker, and of which task. -/
def launch? (f : Floor) : FloorEvent → Option (Nat × Task)
  | .work i _ =>
    match (f.workers[i]?).map Worker.phase with
    | some (.polling (.launching r)) => some (i, r)
    | _ => none
  | _ => none

/-- The launches of a run, one after another. -/
def launches (f : Floor) : List FloorEvent → List (Nat × Task)
  | [] => []
  | event :: events =>
    (f.launch? event).toList ++ (f.step event).elim [] fun f' => f'.launches events

theorem launches_cons {event : FloorEvent} (h : f.step event = some f') (events : List FloorEvent) :
    f.launches (event :: events) = (f.launch? event).toList ++ f'.launches events := by
  rw [launches, h, Option.elim_some]

theorem launch?_eq_some {event : FloorEvent} {i : Nat} {r : Task} :
    f.launch? event = some (i, r) ↔ (∃ c, event = .work i c) ∧ f.Launching i r := by
  constructor
  · intro h
    unfold launch? at h
    split at h
    · split at h
      · next hphase =>
        cases h
        obtain ⟨x, hx, hr⟩ := Option.map_eq_some_iff.mp hphase
        exact ⟨⟨_, rfl⟩, x, hx, hr⟩
      · cases h
    · cases h
  · rintro ⟨⟨c, rfl⟩, x, hx, hr⟩
    have hr : x.phase = .polling (.launching r) := hr
    simp only [launch?, hx, Option.map_some, hr]

/-- **Executors are launched only so**: how often those of a type have been launched changes with a
launch of a task of the type and not otherwise, unless they are replaced. -/
theorem launchesOf_step {event : FloorEvent} (h : f.step event = some f')
    (hequip : ∀ place, event ≠ .equip place) (type : TaskType) :
    f'.place.gateway.launchesOf type = f.place.gateway.launchesOf type ∨
      (∃ i r, f.launch? event = some (i, r) ∧ r.taskType = type) ∧
        f'.place.gateway.launchesOf type = f.place.gateway.launchesOf type + 1 := by
  cases event with
  | work i c =>
    obtain ⟨x, hx, h⟩ := Option.bind_eq_some_iff.mp h
    cases h
    rcases x.step_cases c f.place with ⟨hplace, _⟩ | ⟨poll, hp, hstep⟩
    · exact .inl (by rw [after, hplace])
    rw [after, hstep]
    rcases Poll.gateway_step x.policy x.id c poll f.place with
      hsame | ⟨r, rfl, hlaunch⟩ | ⟨a, beat, rfl, hfinish⟩
    · exact .inl (by rw [hsame])
    · have hlaunches : f.launch? (.work i c) = some (i, r) :=
        launch?_eq_some.mpr ⟨⟨c, rfl⟩, x, hx, hp⟩
      rw [hlaunch]
      cases he : f.place.gateway.registry.executor? r.taskType with
      | none =>
        obtain ⟨outcome, hnone⟩ := Gateway.launch_none he c.steady
        exact .inl (by rw [hnone])
      | some e =>
        obtain ⟨a, g, hsome, _, _, hcount⟩ := Gateway.launch_some he c.steady
        rw [hsome, hcount]
        by_cases htype : type = r.taskType
        · exact .inr ⟨⟨i, r, hlaunches, htype.symm⟩, by rw [if_pos htype]⟩
        · exact .inl (by rw [if_neg htype, Nat.add_zero])
    · exact .inl (by rw [hfinish, Gateway.launchesOf_finish])
  | poll i | shutdown i =>
    obtain ⟨x, hx, h⟩ := Option.bind_eq_some_iff.mp h
    cases h
    exact .inl rfl
  | call now c =>
    simp only [step] at h
    split at h
    · cases h; exact .inl rfl
    · cases h
  | equip place => exact absurd rfl (hequip place)

/-- Who launches a task is not about to launch one any more. -/
theorem launching_left {event : FloorEvent} (h : f.step event = some f') {i : Nat} {r r' : Task}
    (hlaunch : f.launch? event = some (i, r)) : ¬f'.Launching i r' := by
  obtain ⟨⟨c, rfl⟩, x, hx, hr⟩ := launch?_eq_some.mp hlaunch
  obtain ⟨y, hy, h⟩ := Option.bind_eq_some_iff.mp h
  cases h
  cases hx.symm.trans hy
  rintro ⟨z, hz, hr'⟩
  have hz : (f.workers.set i (x.step c f.place).1)[i]? = some z := hz
  rw [List.getElem?_set_self (List.getElem?_eq_some_iff.mp hx).1] at hz
  cases hz
  exact Worker.launching_left hr hr'

/-- The store has the task under the id. -/
structure Keeps (f : Floor) (id : TaskId) (t : Task) : Prop where
  keyed : f.place.store.Keyed
  found : f.place.store.task? id = some t

theorem Keeps.step (h : f.Keeps id t) (hf : t.IsFinal) {event : FloorEvent}
    (hf' : f.step event = some f') : f'.Keeps id t := by
  refine ⟨keyed_step h.keyed hf', ?_⟩
  rcases store_step hf' with hstore | ⟨now, c, hfresh, hstore⟩
  · rw [hstore]
    exact h.found
  · rw [hstore]
    exact Store.final_perform h.keyed hfresh h.found hf now

/-- No start of a final task succeeds, so no worker comes to launch it. -/
theorem Keeps.launching (h : f.Keeps id t) (hf : t.IsFinal) {event : FloorEvent}
    (hf' : f.step event = some f') {i : Nat} {r : Task} (hid : r.id = id)
    (hr : f'.Launching i r) : f.Launching i r := by
  rcases launching_step hf' hr with hbefore | ⟨j, worker, now, s, hstart⟩
  · exact hbefore
  · exfalso
    rcases Store.start_cases f.place.store j worker now with
      ⟨e, herror⟩ | ⟨v, u, s', hv, hmoves, _, hok⟩
    · cases hstart.symm.trans herror
    · cases hstart.symm.trans hok
      have hj : j = id := by rw [← hid, hmoves.keeps.1, Store.id_of_task? hv]
      obtain ⟨e, herror⟩ := Store.final_start h.found hf worker now
      rw [hj, herror] at hstart
      cases hstart

theorem Keeps.run (h : f.Keeps id t) (hf : t.IsFinal) {events : List FloorEvent}
    (hf' : f.run events = some f') :
    f'.Keeps id t ∧ ∀ i r, r.id = id → f'.Launching i r → f.Launching i r := by
  induction events generalizing f with
  | nil => cases hf'; exact ⟨h, fun _ _ _ hr => hr⟩
  | cons event events ih =>
    obtain ⟨f₁, hf₁, hf'⟩ := Option.bind_eq_some_iff.mp hf'
    obtain ⟨hkeeps, hlaunching⟩ := ih (h.step hf hf₁) hf'
    exact ⟨hkeeps, fun i r hid hr => h.launching hf hf₁ hid (hlaunching i r hid hr)⟩

/-- The launches of the task that there are of one worker and another. -/
def launchersOf (f : Floor) (id : TaskId) (events : List FloorEvent) : List Nat :=
  ((f.launches events).filter fun launch => launch.2.id = id).map (·.1)

theorem mem_launchersOf {events : List FloorEvent} {i : Nat} :
    i ∈ f.launchersOf id events ↔ ∃ r, (i, r) ∈ f.launches events ∧ r.id = id := by
  simp [launchersOf, and_comm]

/-- Whoever launches a final task in a run was about to when it began. -/
theorem Keeps.launches (h : f.Keeps id t) (hf : t.IsFinal) {events : List FloorEvent}
    (hf' : f.run events = some f') {i : Nat} {r : Task} (hid : r.id = id)
    (hr : (i, r) ∈ f.launches events) : f.Launching i r := by
  induction events generalizing f with
  | nil => cases hr
  | cons event events ih =>
    obtain ⟨f₁, hf₁, hf'⟩ := Option.bind_eq_some_iff.mp hf'
    rw [launches_cons hf₁, List.mem_append, Option.mem_toList] at hr
    rcases hr with hnow | hlater
    · exact (launch?_eq_some.mp hnow).2
    · exact h.launching hf hf₁ hid (ih (h.step hf hf₁) hf' hlater)

/-- No worker launches a final task twice. -/
theorem Keeps.nodup_launchersOf (h : f.Keeps id t) (hf : t.IsFinal) {events : List FloorEvent}
    (hf' : f.run events = some f') : (f.launchersOf id events).Nodup := by
  induction events generalizing f with
  | nil => exact .nil
  | cons event events ih =>
    obtain ⟨f₁, hf₁, hf'⟩ := Option.bind_eq_some_iff.mp hf'
    have hlater := ih (h.step hf hf₁) hf'
    rw [launchersOf, launches_cons hf₁]
    cases hlaunch : f.launch? event with
    | none => exact hlater
    | some launch =>
      obtain ⟨i, r⟩ := launch
      rw [Option.toList_some, List.singleton_append]
      by_cases hid : r.id = id
      · rw [List.filter_cons_of_pos (by simpa using hid), List.map_cons]
        refine List.nodup_cons.mpr ⟨?_, hlater⟩
        intro hagain
        obtain ⟨r', hr', hid'⟩ := mem_launchersOf.mp hagain
        exact launching_left hf₁ hlaunch ((h.step hf hf₁).launches hf hf' hid' hr')
      · rw [List.filter_cons_of_neg (by simpa using hid)]
        exact hlater

/-- **A task that was cancelled or completed is final.** Whatever workers and others do from then
on, all of it stays as it is, and no claim and no start of it succeeds. Who launches it, or is about
to, had started it and was about to launch it at the time, and launches it once. -/
theorem final_stays (hk : f.place.store.Keyed) (h : f.place.store.Finished id)
    {events : List FloorEvent} (hf' : f.run events = some f') :
    (∃ t, f.place.store.task? id = some t ∧ f'.place.store.task? id = some t) ∧
    (∀ worker now u, (f'.place.store.claim id worker now).1 ≠ .ok (.claimed u)) ∧
    (∀ worker now, ∃ e, f'.place.store.start id worker now = (.error e, f'.place.store)) ∧
    (∀ i r, r.id = id → f'.Launching i r ∨ (i, r) ∈ f.launches events → f.Launching i r) ∧
    (f.launchersOf id events).Nodup := by
  obtain ⟨t, ht, hfinal⟩ := h.final
  have hbefore : f.Keeps id t := ⟨hk, ht⟩
  obtain ⟨hkeeps, hlaunching⟩ := hbefore.run hfinal hf'
  refine ⟨⟨t, ht, hkeeps.found⟩, Store.final_claim hkeeps.found hfinal,
    Store.final_start hkeeps.found hfinal, ?_, hbefore.nodup_launchersOf hfinal hf'⟩
  rintro i r hid (hr | hr)
  · exact hlaunching i r hid hr
  · exact hbefore.launches hfinal hf' hid hr

/-- After a cancellation that succeeds the task is finished. -/
theorem finished_cancel {f₁ : Floor} {now : Instant} (h : f₁.step (.call now (.cancel id)) = some f)
    (hok : (f₁.place.store.cancel id now).1.toOption.isSome = true) :
    f.place.store.Finished id := by
  cases h
  rcases hstep : f₁.place.store.cancel id now with ⟨answer, s⟩
  rw [hstep] at hok
  cases answer with
  | ok t =>
    have hs : (f₁.withStore (f₁.place.store.perform now (.cancel id)).2).place.store = s := by
      simp only [withStore, Store.perform, Store.answered, hstep]
    rw [hs]
    exact .cancelled hstep
  | error e => cases hok

/-- A worker has read the task as a candidate before it is cancelled, and still claims nothing. -/
theorem final_stays_candidate :
    let store : Store := .table {
      rows := [.ofTask (.create "a" ⟨.test, "try", none, none⟩ 3 1)] }
    ∃ f₁ f f', (pair {} store).run (steps 3) = some f₁ ∧
      f₁.workers.map (fun x => x.tasks.map (·.id)) = [["a"], []] ∧
      f₁.step (.call 10 (.cancel "a")) = some f ∧ f.place.store.Keyed ∧
      f.place.store.Finished "a" ∧ f.run (steps 2) = some f' ∧
      (∃ t, f.place.store.task? "a" = some t ∧ f'.place.store.task? "a" = some t) ∧
      ∀ worker now, ∃ e, f'.place.store.start "a" worker now = (.error e, f'.place.store) := by
  intro store
  have hrun : ((pair {} store).run (steps 3) >>= fun f₁ => f₁.step (.call 10 (.cancel "a")) >>=
      fun f => f.run (steps 2) >>= fun _ =>
        some (f₁.workers.map (fun x => x.tasks.map (·.id)),
          (f₁.place.store.cancel "a" 10).1.toOption.isSome, decide f.place.store.ids.Nodup)) =
      some ([["a"], []], true, true) := by decide +kernel
  obtain ⟨f₁, hf₁, hrun⟩ := Option.bind_eq_some_iff.mp hrun
  obtain ⟨f, hf, hrun⟩ := Option.bind_eq_some_iff.mp hrun
  obtain ⟨f', hf', hfacts⟩ := Option.bind_eq_some_iff.mp hrun
  obtain ⟨hread, hcancel, hkeyed⟩ : _ ∧ _ ∧ _ := by simpa only [Option.some.injEq, Prod.mk.injEq]
    using hfacts
  have hk : f.place.store.Keyed := of_decide_eq_true hkeyed
  have hfinished := finished_cancel hf hcancel
  obtain ⟨hsame, _, hstarts, _⟩ := final_stays hk hfinished hf'
  exact ⟨f₁, f, f', hf₁, hread, hf, hk, hfinished, hf', hsame, hstarts⟩

/-- **A worker launches a task after it was cancelled**: it has started it, and before it acts again
the task is reclaimed and cancelled. -/
theorem launched_after_cancel :
    let store : Store := .memory { tasks := [.create "a" ⟨.test, "try", none, none⟩ 3 1] }
    ∃ f₁ f f', (pair {} store).run (steps 5 ++ [.call 20 (.reclaimStale 20)]) = some f₁ ∧
      f₁.step (.call 30 (.cancel "a")) = some f ∧ f.place.store.Finished "a" ∧
      f.step (.work 0 ⟨40, 0⟩) = some f' ∧ f.launchersOf "a" [.work 0 ⟨40, 0⟩] = [0] ∧
      f'.place.gateway.launchesOf .test = f.place.gateway.launchesOf .test + 1 := by
  intro store
  have hrun : ((pair {} store).run (steps 5 ++ [.call 20 (.reclaimStale 20)]) >>= fun f₁ =>
      f₁.step (.call 30 (.cancel "a")) >>= fun f => f.step (.work 0 ⟨40, 0⟩) >>= fun f' =>
        some ((f₁.place.store.cancel "a" 30).1.toOption.isSome,
          f.launchersOf "a" [.work 0 ⟨40, 0⟩],
          decide (f'.place.gateway.launchesOf .test = f.place.gateway.launchesOf .test + 1))) =
      some (true, [0], true) := by decide +kernel
  obtain ⟨f₁, hf₁, hrun⟩ := Option.bind_eq_some_iff.mp hrun
  obtain ⟨f, hf, hrun⟩ := Option.bind_eq_some_iff.mp hrun
  obtain ⟨f', hf', hfacts⟩ := Option.bind_eq_some_iff.mp hrun
  obtain ⟨hcancel, hlaunch, hcount⟩ : _ ∧ _ ∧ _ := by
    simpa only [Option.some.injEq, Prod.mk.injEq] using hfacts
  exact ⟨f₁, f, f', hf₁, hf, finished_cancel hf hcancel, hf', hlaunch, of_decide_eq_true hcount⟩

end Floor

end TaskPipeline
