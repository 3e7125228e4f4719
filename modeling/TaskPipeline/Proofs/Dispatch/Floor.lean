import TaskPipeline.Proofs.Dispatch.Attempt
import TaskPipeline.Proofs.Executor.Gateway
import TaskPipeline.Proofs.Store.Frame
import TaskPipeline.Proofs.Store.Line

/-!
# Workers keep to the types that they are given

A floor is any number of workers of one dispatcher on one store, with anybody else calling the
store between their steps. If the settings of the dispatcher name at least one type of task, its
workers never claim, start or execute a task whose type is not named, whatever is stored
(`named_types_only`). Settings that name only what is no type ask for all types
(`unknown_names_take_all`).
-/

namespace TaskPipeline

/-! ## Calls keep the types of what is stored -/

/-- A call that stores a task does so under an id of its own. -/
def Call.isFresh (s : Store) : Call → Bool
  | .create id _ _ => !s.ids.contains id
  | _ => true

theorem Call.unused_of_isFresh {c : Call} {s : Store} (h : c.isFresh s = true) :
    ∀ id new asked, c = .create id new asked → id ∉ s.ids := by
  rintro id new asked rfl
  simpa [isFresh] using h

namespace Store

/-- What is stored stays, and stays of its type. -/
def KeepsTypes (s s' : Store) : Prop :=
  ∀ id t, s.task? id = some t → ∃ u, s'.task? id = some u ∧ u.taskType = t.taskType

variable {s s' : Store} {now : Instant} {c : Call}

theorem Same.keepsTypes (h : s.Same s') : s.KeepsTypes s' := fun id t ht =>
  ⟨t, by rw [h.task?]; exact ht, rfl⟩

theorem Puts.keepsTypes {u : Task} (h : s.Puts u s')
    (hu : ∀ t, s.task? u.id = some t → u.taskType = t.taskType) : s.KeepsTypes s' := by
  intro id t ht
  by_cases hid : id = u.id
  · subst hid
    exact ⟨u, h.self, hu t ht⟩
  · exact ⟨t, by rw [h.other hid]; exact ht, rfl⟩

theorem Reaps.keepsTypes {α : Type} {select : Task → Bool}
    {change : Task → Except Fault (α × Task)} {reports : List (TaskId × α)}
    (h : s.Reaps select change reports s')
    (hchange : ∀ {t a u}, change t = .ok (a, u) → u.taskType = t.taskType) : s.KeepsTypes s' := by
  intro id t ht
  have hreaped := h.each id
  rw [ht] at hreaped
  generalize s'.task? id = v at hreaped
  cases hreaped with
  | taken _ hc _ => exact ⟨_, rfl, hchange hc⟩
  | spared => exact ⟨t, rfl, rfl⟩

theorem keepsTypes_claim (s : Store) (id : TaskId) (worker : WorkerId) (now : Instant) :
    s.KeepsTypes (s.claim id worker now).2 ∧ (s.claim id worker now).2.ids = s.ids := by
  rcases claim_cases s id worker now with ⟨hsame, _⟩ | ⟨u, _, hwins⟩
  · exact ⟨hsame.keepsTypes, hsame.ids⟩
  · refine ⟨hwins.puts.keepsTypes fun t ht => ?_, hwins.puts.ids⟩
    obtain ⟨_, rfl⟩ := hwins.before t (by rw [← hwins.id_eq]; exact ht)
    rfl

theorem keepsTypes_asked {id : TaskId} {op : Operation} {step : Answer Reply × Store}
    (h : s.Asked now id op step) : s.KeepsTypes step.2 ∧ step.2.ids = s.ids := by
  rcases h.same_or_puts with hsame | ⟨t, u, ht, hmoves, hid, hputs⟩
  · rw [hsame]
    exact ⟨(Same.refl s).keepsTypes, rfl⟩
  · refine ⟨hputs.keepsTypes fun v hv => ?_, hputs.ids⟩
    rw [hid, ht] at hv
    cases hv
    exact hmoves.keeps.2.1

theorem keepsTypes_create (hk : s.Keyed) {id : TaskId} (hid : id ∉ s.ids) (new : NewTask)
    (asked : UInt32) (now : Instant) :
    s.KeepsTypes (s.create id new asked now).2 ∧ (s.create id new asked now).2.Keyed := by
  refine ⟨fun i t ht => ⟨t, ?_, rfl⟩, ?_⟩
  · have hi : i ≠ id := fun he => hid (he ▸ mem_ids_of_task? ht)
    rw [task?_create hi]
    exact ht
  · show (s.create id new asked now).2.ids.Nodup
    rw [ids_create]
    exact List.nodup_append.mpr ⟨hk, by simp, by
      rintro a ha b hb rfl
      exact hid (List.mem_singleton.mp hb ▸ ha)⟩

/-- **No call changes the type of a task or loses one**, as long as new tasks get new ids. -/
theorem keepsTypes_perform (hk : s.Keyed) (hc : c.isFresh s = true) (now : Instant) :
    s.KeepsTypes (s.perform now c).2 ∧ (s.perform now c).2.Keyed := by
  by_cases hquery : c.isQuery = true
  · have hsame := same_perform s hquery now
    exact ⟨hsame.keepsTypes, hk.of_ids hsame.ids⟩
  cases c with
  | create id new asked =>
    exact keepsTypes_create hk (by simpa [Call.isFresh] using hc) new asked now
  | claim id worker =>
    exact (s.keepsTypes_claim id worker now).imp_right hk.of_ids
  | start | touch | recordOutcome | resolve | reopen | cancel =>
    exact (keepsTypes_asked (asked_perform s rfl (by simp))).imp_right hk.of_ids
  | reclaimStale cutoff =>
    rcases reclaimStale_cases hk cutoff now with ⟨e, hstep⟩ | ⟨reports, s', hstep, hreaps⟩
    · simp only [perform, answered, hstep]
      exact ⟨(Same.refl s).keepsTypes, hk⟩
    · simp only [perform, answered, hstep]
      exact ⟨hreaps.keepsTypes fun h => (Task.reclaim_eq_ok h).keeps.2.1, hk.of_ids hreaps.ids⟩
  | expireDecisions cutoff =>
    rcases expireDecisions_cases hk cutoff now with ⟨e, hstep⟩ | ⟨reports, s', hstep, hreaps⟩
    · simp only [perform, answered, hstep]
      exact ⟨(Same.refl s).keepsTypes, hk⟩
    · simp only [perform, answered, hstep]
      refine ⟨hreaps.keepsTypes fun h => ?_, hk.of_ids hreaps.ids⟩
      obtain ⟨u, hu, hpair⟩ := Task.map_eq_ok.mp h
      cases hpair
      exact (Task.expire_moves hu).keeps.2.1
  | _ => exact absurd rfl hquery

end Store

/-! ## Steps of a poll -/

/-- The tasks that a poll is at: those it may claim, or the one it has claimed. -/
def Poll.tasks : Poll → List Task
  | .claiming candidates => candidates
  | .starting t | .launching t | .settling t _ | .telling t => [t]
  | .attempting a _ => [a.task]
  | .gating | .querying | .ended _ | .crashed => []

theorem Poll.tasks_abandon (e : StoreError) : (Poll.abandon e).tasks = [] := by
  cases e <;> rfl

/-- The call about one task that a poll makes in its next step, if it makes one. -/
def Poll.call? (worker : WorkerId) (c : Clocks) (w : Workplace) : Poll → Option Call
  | .claiming (t :: _) => some (.claim t.id worker)
  | .starting t => some (.start t.id worker)
  | .attempting a beat =>
    if a.overAt ≤ c.steady ∨ c.steady < beat then none else some (.touch a.task.id worker)
  | .settling t outcome =>
    some (.recordOutcome t.id t.attemptCount (w.policy.decide t outcome c.now))
  | _ => none

namespace Poll

variable {p : DispatchPolicy} {worker : WorkerId} {c : Clocks} {poll : Poll} {w : Workplace}

/-- The call of a poll is about a task that it is at. -/
theorem about_call? {call : Call} (h : poll.call? worker c w = some call) :
    ∃ t ∈ poll.tasks, call.about = some t.id ∧ ∀ s, call.isFresh s = true := by
  unfold call? at h
  split at h
  · cases h; exact ⟨_, List.mem_cons_self, rfl, fun _ => rfl⟩
  · cases h; exact ⟨_, List.mem_cons_self, rfl, fun _ => rfl⟩
  · split at h <;> cases h
    exact ⟨_, List.mem_cons_self, rfl, fun _ => rfl⟩
  · cases h; exact ⟨_, List.mem_cons_self, rfl, fun _ => rfl⟩
  · cases h

/-- A step of a poll makes its call, and no other that changes a store. -/
theorem store_step :
    (poll.step p worker c w).2.store =
      match poll.call? worker c w with
      | some call => (w.store.perform c.now call).2
      | none => w.store := by
  cases poll with
  | gating => simp only [step, gate, call?]; split <;> rfl
  | querying => simp only [step, call?]; split <;> rfl
  | claiming candidates =>
    cases candidates with
    | nil => rfl
    | cons t rest => simp only [step, claimFirst, call?]; split <;> rfl
  | starting t => simp only [step, call?]; split <;> rfl
  | launching t => simp only [step, call?]; split <;> [rfl; (split <;> rfl)]
  | attempting a beat =>
    simp only [step, attend, giveSign, call?]
    by_cases hover : a.overAt ≤ c.steady
    · simp only [if_pos hover, if_pos (Or.inl hover)]
    · by_cases hbeat : beat ≤ c.steady
      · simp only [if_pos hbeat, hover, Nat.not_lt.mpr hbeat, or_self, if_false]
        rfl
      · simp only [if_neg hover, if_neg hbeat, if_pos (Or.inr (Nat.lt_of_not_le hbeat))]
  | settling t outcome => simp only [step, settle, call?]; split <;> rfl
  | telling | ended | crashed => rfl

/-- A step of a poll uses the gateway only to launch its task and to end its attempt. -/
theorem gateway_step (p : DispatchPolicy) (worker : WorkerId) (c : Clocks) (poll : Poll)
    (w : Workplace) :
    (poll.step p worker c w).2.gateway = w.gateway ∨
    (∃ t, poll = launching t ∧
      (poll.step p worker c w).2.gateway = (w.gateway.launch t c.steady).2) ∨
    ∃ a beat, poll = attempting a beat ∧
      (poll.step p worker c w).2.gateway = (w.gateway.finish a).2 := by
  cases poll with
  | gating => simp only [step, gate]; split <;> exact .inl rfl
  | querying => simp only [step]; split <;> exact .inl rfl
  | claiming candidates =>
    cases candidates with
    | nil => exact .inl rfl
    | cons t rest => simp only [step, claimFirst]; split <;> exact .inl rfl
  | starting t => simp only [step]; split <;> exact .inl rfl
  | launching t =>
    simp only [step]
    split
    · exact .inl rfl
    · refine .inr (.inl ⟨t, rfl, ?_⟩)
      split <;> rfl
  | attempting a beat =>
    simp only [step, attend]
    split
    · exact .inr (.inr ⟨a, beat, rfl, rfl⟩)
    · simp only [giveSign]; split <;> exact .inl rfl
  | settling t outcome => simp only [step, settle]; split <;> exact .inl rfl
  | telling | ended | crashed => exact .inl rfl

/-- The executors of the types that a poll is not at stay as they are. -/
theorem executor?_step {type : TaskType} (h : ∀ t ∈ poll.tasks, t.taskType ≠ type) :
    (poll.step p worker c w).2.gateway.registry.executor? type =
      w.gateway.registry.executor? type := by
  rcases gateway_step p worker c poll w with
    hsame | ⟨t, rfl, hlaunch⟩ | ⟨a, beat, rfl, hfinish⟩
  · rw [hsame]
  · rw [hlaunch]
    exact Gateway.executor?_launch_ne (h t List.mem_cons_self).symm w.gateway c.steady
  · rw [hfinish]
    exact Gateway.executor?_finish_ne (h a.task List.mem_cons_self).symm w.gateway

/-- A task of one of these types, stored with that type. -/
def Holds (types : List TaskType) (s : Store) (t : Task) : Prop :=
  t.taskType ∈ types ∧ ∃ v, s.task? t.id = some v ∧ v.taskType = t.taskType

/-- Everything that a poll is at is stored, and of these types. -/
def Within (types : List TaskType) (s : Store) (poll : Poll) : Prop :=
  ∀ t ∈ poll.tasks, Holds types s t

section Within

variable {types : List TaskType} {s s' : Store} {t u : Task}

theorem Holds.keeps (h : Holds types s t) (hs : s.KeepsTypes s') : Holds types s' t := by
  obtain ⟨htypes, v, hv, htype⟩ := h
  obtain ⟨u, hu, hsame⟩ := hs t.id v hv
  exact ⟨htypes, u, hu, hsame.trans htype⟩

/-- What the store has about the task later is of the same type. -/
theorem Holds.found (h : Holds types s t) (hs : s.KeepsTypes s') (hid : u.id = t.id)
    (hu : s'.task? u.id = some u) : Holds types s' u := by
  obtain ⟨htypes, v, hv, htype⟩ := h.keeps hs
  rw [hid, hv] at hu
  cases hu
  exact ⟨by rw [htype]; exact htypes, _, by rw [hid]; exact hv, rfl⟩

theorem Within.keeps (h : Within types s poll) (hs : s.KeepsTypes s') : Within types s' poll :=
  fun t ht => (h t ht).keeps hs

/-- The store after a step keeps the types of the store before. -/
theorem keepsTypes_step (p : DispatchPolicy) (worker : WorkerId) (c : Clocks) (poll : Poll)
    (hk : w.store.Keyed) :
    w.store.KeepsTypes (poll.step p worker c w).2.store ∧
      (poll.step p worker c w).2.store.Keyed := by
  rw [store_step]
  cases hcall : poll.call? worker c w with
  | none => exact ⟨(Store.Same.refl _).keepsTypes, hk⟩
  | some call =>
    obtain ⟨_, _, _, hfresh⟩ := about_call? hcall
    exact Store.keepsTypes_perform hk (hfresh _) c.now

theorem within_nothing (h : poll.tasks = []) : Within types s poll := by
  intro t ht
  rw [h] at ht
  cases ht

theorem within_querying (hp : p.taskTypes = types) (hne : types ≠ []) (hk : w.store.Keyed) :
    Within types (querying.step p worker c w).2.store (querying.step p worker c w).1 := by
  simp only [step]
  split
  · next candidates hfound =>
    intro t ht
    obtain ⟨hstored, hopen⟩ := Store.mem_claimable hk hfound ht
    have hof : t.isOf types = true := by
      rw [← hp]
      exact (Bool.and_eq_true_iff.mp hopen).2
    refine ⟨?_, t, hstored, rfl⟩
    simpa [Task.isOf, hne] using hof
  · exact within_nothing rfl

theorem within_claiming {candidates : List Task} (hk : w.store.Keyed)
    (h : Within types w.store (.claiming candidates)) :
    Within types ((claiming candidates).step p worker c w).2.store
      ((claiming candidates).step p worker c w).1 := by
  have hkeeps := (keepsTypes_step p worker c (.claiming candidates) hk).1
  cases candidates with
  | nil => exact within_nothing rfl
  | cons t rest =>
    have hcases := Store.claim_cases w.store t.id worker c.now
    rcases hclaim : w.store.claim t.id worker c.now with ⟨answer, s'⟩
    simp only [step, claimFirst, hclaim] at hcases hkeeps ⊢
    have hrest : w.store.KeepsTypes s' → Within types s' (.claiming rest) := fun hkeeps v hv =>
      (h v (List.mem_cons_of_mem _ hv)).keeps hkeeps
    cases answer with
    | error => exact hrest hkeeps
    | ok result =>
      cases result with
      | alreadyClaimed => exact hrest hkeeps
      | claimed u =>
        rcases hcases with ⟨_, hlost⟩ | ⟨_, ⟨⟩, hwins⟩
        · exact absurd rfl (hlost u)
        · intro v hv
          cases List.mem_singleton.mp hv
          exact (h t List.mem_cons_self).found hkeeps hwins.id_eq hwins.puts.self

theorem within_starting (hk : w.store.Keyed) (h : Within types w.store (.starting t)) :
    Within types ((starting t).step p worker c w).2.store
      ((starting t).step p worker c w).1 := by
  have hkeeps := (keepsTypes_step p worker c (.starting t) hk).1
  simp only [step] at hkeeps ⊢
  rcases Store.start_cases w.store t.id worker c.now with
    ⟨e, hstart⟩ | ⟨v, u, s', hv, hmoves, hputs, hstart⟩
  · rw [hstart]
    exact within_nothing (tasks_abandon e)
  · rw [hstart] at hkeeps ⊢
    intro x hx
    cases List.mem_singleton.mp hx
    exact (h t List.mem_cons_self).found hkeeps
      (hmoves.keeps.1.trans (Store.id_of_task? hv)) hputs.self

theorem within_attempting {a : Attempt} {beat : Nat} (hk : w.store.Keyed)
    (h : Within types w.store (.attempting a beat)) :
    Within types ((attempting a beat).step p worker c w).2.store
      ((attempting a beat).step p worker c w).1 := by
  have hkept := h.keeps (keepsTypes_step p worker c (.attempting a beat) hk).1
  simp only [step, attend, giveSign] at hkept ⊢
  split
  · next hover => rw [if_pos hover] at hkept; exact hkept
  · next hover =>
    rw [if_neg hover] at hkept
    split
    · next hbeat => rw [if_pos hbeat] at hkept; exact hkept
    · next hbeat => rw [if_neg hbeat] at hkept; exact hkept

theorem within_settling {outcome : Outcome} (hk : w.store.Keyed)
    (h : Within types w.store (.settling t outcome)) :
    Within types ((settling t outcome).step p worker c w).2.store
      ((settling t outcome).step p worker c w).1 := by
  have hkeeps := (keepsTypes_step p worker c (.settling t outcome) hk).1
  simp only [step, settle] at hkeeps ⊢
  rcases Store.recordOutcome_cases w.store t.id t.attemptCount
    (w.policy.decide t outcome c.now) c.now with
    ⟨e, hrecord⟩ | ⟨v, u, applied, s', hv, hsettle, hputs, hrecord⟩
  · rw [hrecord]
    exact within_nothing (tasks_abandon e)
  · rw [hrecord] at hkeeps ⊢
    cases applied with
    | duplicate => exact within_nothing rfl
    | transitioned status =>
      intro x hx
      cases List.mem_singleton.mp hx
      exact (h t List.mem_cons_self).found hkeeps
        ((Task.settle_eq_ok hsettle).1.keeps.1.trans (Store.id_of_task? hv)) hputs.self

/-- **What a poll is at stays within its types.** -/
theorem within_step (hp : p.taskTypes = types) (hne : types ≠ []) (hk : w.store.Keyed)
    (h : Within types w.store poll) :
    Within types (poll.step p worker c w).2.store (poll.step p worker c w).1 := by
  cases poll with
  | gating =>
    simp only [step, gate]
    split
    · cases w.gateOpen <;> exact within_nothing rfl
    · exact within_nothing rfl
  | querying => exact within_querying hp hne hk
  | claiming => exact within_claiming hk h
  | starting => exact within_starting hk h
  | launching t =>
    simp only [step]
    split
    · exact within_nothing rfl
    · unfold Gateway.launch
      cases w.gateway.registry.executor? t.taskType <;> exact h
  | attempting => exact within_attempting hk h
  | settling => exact within_settling hk h
  | telling | ended | crashed => exact within_nothing rfl

end Within

end Poll

/-! ## Steps of a worker -/

namespace Worker

/-- The tasks that a worker is at. -/
def tasks (x : Worker) : List Task :=
  match x.phase with
  | .polling poll => poll.tasks
  | _ => []

/-- A worker between polls changes nothing and is at nothing, and a poll under way goes on. -/
theorem step_cases (x : Worker) (c : Clocks) (w : Workplace) :
    (x.step c w).2 = w ∧ (x.step c w).1.tasks = [] ∨
    ∃ poll, x.phase = .polling poll ∧ x.step c w =
      ({ x with phase := .polling (poll.step x.policy x.id c w).1 },
        (poll.step x.policy x.id c w).2) := by
  cases hp : x.phase with
  | polling poll =>
    cases poll with
    | ended ran => cases ran <;> exact .inl (by simp only [step, hp, true_and]; rfl)
    | crashed => exact .inl (by simp only [step, hp, true_and]; rfl)
    | _ => exact .inr ⟨_, rfl, step_polling hp (by simp) (by simp)⟩
  | deciding =>
    refine .inl ?_
    simp only [step, hp, true_and]
    cases x.cancelled <;> rfl
  | resting wakes =>
    refine .inl ?_
    simp only [step, hp]
    split
    · exact ⟨rfl, rfl⟩
    · split
      · exact ⟨rfl, rfl⟩
      · exact ⟨rfl, by simp only [tasks, hp]⟩
  | stopped => exact .inl (by simp only [step, tasks, hp, true_and])

/-- A step of a worker makes at most the call of its poll. -/
theorem store_step (x : Worker) (c : Clocks) (w : Workplace) :
    (x.step c w).2.store = w.store ∨
    ∃ poll call, x.phase = .polling poll ∧ poll.call? x.id c w = some call ∧
      (x.step c w).2.store = (w.store.perform c.now call).2 := by
  rcases x.step_cases c w with ⟨hplace, _⟩ | ⟨poll, hp, hstep⟩
  · exact .inl (by rw [hplace])
  · have hstore : (x.step c w).2.store = (poll.step x.policy x.id c w).2.store := by rw [hstep]
    rw [Poll.store_step] at hstore
    cases hcall : poll.call? x.id c w with
    | none => rw [hcall] at hstore; exact .inl hstore
    | some call => rw [hcall] at hstore; exact .inr ⟨poll, call, hp, hcall, hstore⟩

end Worker

/-! ## Floors -/

/-- Workers of one dispatcher at one place. -/
structure Floor where
  place : Workplace
  workers : List Worker

/-- What can happen on a floor. The clocks may say anything. -/
inductive FloorEvent where
  /-- A worker does its next step. -/
  | work (i : Nat) (c : Clocks)
  /-- A worker gives up what it is at and begins a poll. -/
  | poll (i : Nat)
  /-- The shutdown of a worker begins. -/
  | shutdown (i : Nat)
  /-- Somebody else calls the store. -/
  | call (now : Instant) (c : Call)
  /-- Everything but the store is replaced. -/
  | equip (place : Workplace)

namespace Floor

def withStore (f : Floor) (s : Store) : Floor := { f with place := { f.place with store := s } }

/-- Puts a worker in its place, and the workplace as it leaves it. -/
def after (f : Floor) (i : Nat) (step : Worker × Workplace) : Floor :=
  { place := step.2, workers := f.workers.set i step.1 }

/-- The floor after an event; none if the event cannot happen. -/
def step (f : Floor) : FloorEvent → Option Floor
  | .work i c => do f.after i ((← f.workers[i]?).step c f.place)
  | .poll i => do f.after i ({ (← f.workers[i]?) with phase := .polling .gating }, f.place)
  | .shutdown i => do f.after i ({ (← f.workers[i]?) with cancelled := true }, f.place)
  | .call now c =>
    if c.isFresh f.place.store then some (f.withStore (f.place.store.perform now c).2) else none
  | .equip place => some { f with place := { place with store := f.place.store } }

/-- The floor after several events. -/
def run (f : Floor) (events : List FloorEvent) : Option Floor := events.foldlM step f

/-- A dispatcher with these settings has its workers on the floor, and none is at a task. -/
structure Fresh (f : Floor) (settings : DispatchSettings) : Prop where
  keyed : f.place.store.Keyed
  policy : ∀ x ∈ f.workers, x.policy = .ofSettings settings
  free : ∀ x ∈ f.workers, x.tasks = []

/-- A step of a worker that keeps to some types of task: it is at no other tasks, it changes nothing
or only a task of these types, and it leaves the executors of the other types alone. -/
structure KeepsTo (names : List String) (x' : Worker) (before after : Workplace) : Prop where
  tasks : ∀ t ∈ x'.tasks, t.taskType.name ∈ names
  store : after.store = before.store ∨
    ∃ t, before.store.task? t.id = some t ∧ t.taskType.name ∈ names ∧
      after.store.without t.id = before.store.without t.id
  executors : ∀ type : TaskType, type.name ∉ names →
    after.gateway.registry.executor? type = before.gateway.registry.executor? type

/-! ### The invariant -/

structure Inv (types : List TaskType) (f : Floor) : Prop where
  keyed : f.place.store.Keyed
  policy : ∀ x ∈ f.workers, x.policy.taskTypes = types
  within : ∀ x ∈ f.workers, ∀ t ∈ x.tasks, Poll.Holds types f.place.store t

variable {types : List TaskType} {f f' : Floor}

/-- Whoever changes the store keeps the types of what is stored. -/
theorem Inv.store (h : f.Inv types) {s : Store}
    (hs : f.place.store.KeepsTypes s ∧ s.Keyed) : (f.withStore s).Inv types where
  keyed := hs.2
  policy := h.policy
  within x hx t ht := (h.within x hx t ht).keeps hs.1

/-- A worker may leave another store and be at other tasks, if all types are kept. -/
theorem Inv.after (h : f.Inv types) (i : Nat) {step : Worker × Workplace}
    (hpolicy : step.1.policy.taskTypes = types)
    (hwithin : ∀ t ∈ step.1.tasks, Poll.Holds types step.2.store t)
    (hstore : f.place.store.KeepsTypes step.2.store ∧ step.2.store.Keyed) :
    (f.after i step).Inv types where
  keyed := hstore.2
  policy y hy := by
    rcases List.mem_or_eq_of_mem_set hy with hy | rfl
    · exact h.policy y hy
    · exact hpolicy
  within y hy := by
    rcases List.mem_or_eq_of_mem_set hy with hy | rfl
    · exact fun t ht => (h.within y hy t ht).keeps hstore.1
    · exact hwithin

/-- What a worker is at after its step, and the store that it leaves. -/
theorem Inv.worker_step (h : f.Inv types) (hne : types ≠ []) {x : Worker} (hx : x ∈ f.workers)
    (c : Clocks) :
    (∀ t ∈ (x.step c f.place).1.tasks, Poll.Holds types (x.step c f.place).2.store t) ∧
      f.place.store.KeepsTypes (x.step c f.place).2.store ∧
      (x.step c f.place).2.store.Keyed := by
  rcases x.step_cases c f.place with ⟨hplace, hnothing⟩ | ⟨poll, hp, hstep⟩
  · rw [hplace, hnothing]
    exact ⟨by simp, (Store.Same.refl _).keepsTypes, h.keyed⟩
  · rw [hstep]
    have hwithin : Poll.Within types f.place.store poll := by
      have hx := h.within x hx
      simp only [Worker.tasks, hp] at hx
      exact hx
    exact ⟨Poll.within_step (h.policy x hx) hne h.keyed hwithin,
      Poll.keepsTypes_step x.policy x.id c poll h.keyed⟩

theorem inv_step (hne : types ≠ []) (h : f.Inv types) {event : FloorEvent}
    (hf' : f.step event = some f') : f'.Inv types := by
  have hsame := (Store.Same.refl f.place.store).keepsTypes
  cases event with
  | work i c =>
    obtain ⟨x, hx, hf'⟩ := Option.bind_eq_some_iff.mp hf'
    cases hf'
    obtain ⟨hwithin, hstore⟩ := h.worker_step hne (List.mem_of_getElem? hx) c
    refine h.after i ?_ hwithin hstore
    rw [(x.step_same c f.place).2]
    exact h.policy x (List.mem_of_getElem? hx)
  | poll i =>
    obtain ⟨x, hx, hf'⟩ := Option.bind_eq_some_iff.mp hf'
    cases hf'
    exact h.after i (h.policy x (List.mem_of_getElem? hx)) (by simp [Worker.tasks, Poll.tasks])
      ⟨hsame, h.keyed⟩
  | shutdown i =>
    obtain ⟨x, hx, hf'⟩ := Option.bind_eq_some_iff.mp hf'
    cases hf'
    have hx := List.mem_of_getElem? hx
    exact h.after i (h.policy x hx) (h.within x hx) ⟨hsame, h.keyed⟩
  | call now c =>
    simp only [step] at hf'
    split at hf'
    · next hfresh => cases hf'; exact h.store (Store.keepsTypes_perform h.keyed hfresh now)
    · cases hf'
  | equip place => cases hf'; exact ⟨h.keyed, h.policy, h.within⟩

theorem inv_run (hne : types ≠ []) {events : List FloorEvent} (h : f.Inv types)
    (hf' : f.run events = some f') : f'.Inv types := by
  induction events generalizing f with
  | nil => cases hf'; exact h
  | cons event events ih =>
    obtain ⟨f₁, hf₁, hf'⟩ := Option.bind_eq_some_iff.mp hf'
    exact ih (inv_step hne h hf₁) hf'

/-! ### Main statement -/

theorem mem_capabilities {settings : DispatchSettings} {type : TaskType} :
    type ∈ settings.capabilities ↔ type.name ∈ settings.taskTypes := by
  rw [DispatchSettings.capabilities, List.mem_filterMap]
  constructor
  · rintro ⟨name, hname, htype⟩
    have hname' : type.name = name := by simpa [TaskType.ofName?] using List.find?_some htype
    rw [hname']
    exact hname
  · exact fun hname => ⟨type.name, hname, by cases type <;> rfl⟩

theorem Fresh.inv {settings : DispatchSettings} (h : f.Fresh settings) :
    f.Inv settings.capabilities where
  keyed := h.keyed
  policy x hx := by rw [h.policy x hx]; rfl
  within x hx t ht := by rw [h.free x hx] at ht; cases ht

theorem Inv.keepsTo {settings : DispatchSettings} (h : f.Inv settings.capabilities)
    (hne : settings.capabilities ≠ []) {x : Worker} (hx : x ∈ f.workers) (c : Clocks) :
    KeepsTo settings.taskTypes (x.step c f.place).1 f.place (x.step c f.place).2 where
  tasks t ht := mem_capabilities.mp ((h.worker_step hne hx c).1 t ht).1
  store := by
    rcases x.step_cases c f.place with ⟨hplace, _⟩ | ⟨poll, hp, hstep⟩
    · exact .inl (by rw [hplace])
    · rw [hstep]
      dsimp only
      rw [Poll.store_step]
      cases hcall : poll.call? x.id c f.place with
      | none => exact .inl rfl
      | some call =>
        obtain ⟨t, ht, habout, _⟩ := Poll.about_call? hcall
        have hat : t ∈ x.tasks := by simp only [Worker.tasks, hp]; exact ht
        obtain ⟨htypes, v, hv, htype⟩ := h.within x hx t hat
        have hid := Store.id_of_task? hv
        refine .inr ⟨v, by rw [hid]; exact hv, ?_, by rw [hid]; exact Store.without_perform habout⟩
        rw [htype]
        exact mem_capabilities.mp htypes
  executors type htype := by
    rcases x.step_cases c f.place with ⟨hplace, _⟩ | ⟨poll, hp, hstep⟩
    · rw [hplace]
    · rw [hstep]
      refine Poll.executor?_step fun t ht he => htype ?_
      have hat : t ∈ x.tasks := by simp only [Worker.tasks, hp]; exact ht
      rw [← he]
      exact mem_capabilities.mp (h.within x hx t hat).1

/-- **Workers keep to the named types**, if one of the names is that of a type: in no run, whatever
is stored and whatever others do, does a worker claim, start or execute any other task. -/
theorem named_types_only {settings : DispatchSettings}
    (hnamed : ∃ name ∈ settings.taskTypes, (TaskType.ofName? name).isSome = true)
    (h : f.Fresh settings) {events : List FloorEvent} (hf' : f.run events = some f') {x : Worker}
    (hx : x ∈ f'.workers) (c : Clocks) :
    KeepsTo settings.taskTypes (x.step c f'.place).1 f'.place (x.step c f'.place).2 := by
  obtain ⟨name, hname, hsome⟩ := hnamed
  obtain ⟨type, htype⟩ := Option.isSome_iff_exists.mp hsome
  have hne : settings.capabilities ≠ [] :=
    List.ne_nil_of_mem (List.mem_filterMap.mpr ⟨name, hname, htype⟩)
  exact (inv_run hne h.inv hf').keepsTo hne hx c

/-- Two workers with these settings, and executors for two types of task. -/
def pair (settings : DispatchSettings) (store : Store) : Floor where
  place := {
    store := store
    gateway := {
      registry := (Registry.register {} .impl (.ofReports "impl" [] ⟨true, "ok", none⟩ 5)).register
        .test (.ofReports "test" [] ⟨true, "ok", none⟩ 5)
      defaultLimit := 5000 }
    policy := .ofSettings {} }
  workers := [{ id := "w0", policy := .ofSettings settings },
    { id := "w1", policy := .ofSettings settings }]

/-- The first worker does so many steps. -/
def steps (n : Nat) : List FloorEvent := List.replicate n (.work 0 ⟨10, 0⟩)

theorem fresh_pair {settings : DispatchSettings} {store : Store} (hk : store.Keyed) :
    (pair settings store).Fresh settings where
  keyed := hk
  policy := by simp [pair]
  free := by simp [pair, Worker.tasks]

/-- One known name among others: an older task of another type and a row of a named type that does
not exist are left where they are. -/
theorem named_types_only_mixed :
    let settings : DispatchSettings := { taskTypes := ["bogus", "test", "test"] }
    let store : Store := .table {
      rows := [Store.bogusRow, .ofTask (.create "b" ⟨.impl, "build", none, none⟩ 3 1),
        .ofTask (.create "c" ⟨.test, "try", none, none⟩ 3 2)] }
    (∃ name ∈ settings.taskTypes, (TaskType.ofName? name).isSome = true) ∧
    (pair settings store).Fresh settings ∧
    ∃ f', (pair settings store).run (steps 4) = some f' ∧
      f'.workers.map (fun x => x.tasks.map (·.id)) = [["c"], []] ∧
      ∀ x ∈ f'.workers,
        KeepsTo settings.taskTypes (x.step ⟨10, 0⟩ f'.place).1 f'.place
          (x.step ⟨10, 0⟩ f'.place).2 := by
  intro settings store
  have hnamed : ∃ name ∈ settings.taskTypes, (TaskType.ofName? name).isSome = true := by decide
  have hfresh : (pair settings store).Fresh settings := fresh_pair (by decide)
  have hrun : ((pair settings store).run (steps 4)).map
      (fun f => f.workers.map fun x => x.tasks.map (·.id)) = some [["c"], []] := by decide +kernel
  obtain ⟨f', hf', htasks⟩ := Option.map_eq_some_iff.mp hrun
  refine ⟨hnamed, hfresh, f', hf', htasks, ?_⟩
  intro x hx
  exact named_types_only hnamed hfresh hf' hx ⟨10, 0⟩

/-- **Names that are no types take all tasks**: a worker that is to take only tasks of a type that
does not exist claims, starts and executes one of another type. -/
theorem unknown_names_take_all :
    let settings : DispatchSettings := { taskTypes := ["bogus"] }
    let store : Store := .memory { tasks := [.create "a" ⟨.impl, "build", none, none⟩ 3 0] }
    settings.taskTypes ≠ [] ∧ (pair settings store).Fresh settings ∧
    ∃ f', (pair settings store).run (steps 6) = some f' ∧
      (f'.place.store.task? "a").map (fun t => (t.taskType, t.status, t.claimedBy)) =
        some (.impl, .running, some "w0") ∧
      (f'.place.gateway.registry.executor? .impl).map (·.launched) = some 1 ∧
      TaskType.impl.name ∉ settings.taskTypes := by
  intro settings store
  have hrun : ((pair settings store).run (steps 6)).map (fun f =>
      ((f.place.store.task? "a").map (fun t => (t.taskType, t.status, t.claimedBy)),
        (f.place.gateway.registry.executor? .impl).map (·.launched))) =
      some (some (.impl, .running, some "w0"), some 1) := by decide +kernel
  obtain ⟨f', hf', hfacts⟩ := Option.map_eq_some_iff.mp hrun
  exact ⟨by decide, fresh_pair (by decide), f', hf', (Prod.mk.inj hfacts).1,
    (Prod.mk.inj hfacts).2, by decide⟩

end Floor

end TaskPipeline
