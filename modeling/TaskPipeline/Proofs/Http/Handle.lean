import TaskPipeline.Http.Api
import TaskPipeline.Proofs.Json.FreeForm
import TaskPipeline.Proofs.Store.Query
import TaskPipeline.Proofs.Store.Replace
import TaskPipeline.Proofs.Store.Step

/-!
# What a request does to the store

Every handler either leaves the store as it is or asks it for one change. What a request that is
fulfilled has done is a `Deed`: it made a task, or it moved the one that it names out of the status
that the deed starts from. Main statement: `serves_handle`, from which it follows that a request
which is not answered with success has changed nothing.
-/

namespace TaskPipeline

/-! ## A store with one task more -/

namespace Store

/-- A task is stored under an id that was not in use, and everything else stays. What a reader
finds under the id is what it makes of the task. -/
structure Gains (s : Store) (u : Task) (s' : Store) : Prop where
  unused : u.id ∉ s.ids
  ids : s'.ids = s.ids ++ [u.id]
  task? : s'.task? = Function.update s.task? u.id (s.read u).toOption
  rest : s'.without u.id = s.without u.id

variable {s : Store} {u : Task} {now : Instant} {id : TaskId}

theorem task?_of_unused (h : id ∉ s.ids) : s.task? id = none := by
  cases ht : s.task? id with
  | none => rfl
  | some t => exact absurd (mem_ids_of_task? ht) h

/-- A new task is read as the store reads it. -/
theorem task?_created (h : id ∉ s.ids) (new : NewTask) (asked : UInt32) :
    (s.create id new asked now).2.task? id =
      (s.read (Task.create id new asked now)).toOption := by
  have hnone : s.task? id = none := task?_of_unused h
  cases s with
  | memory m =>
    rw [task?_memory] at hnone
    show (memory (m.create id new asked now).2).task? id = _
    rw [task?_memory, MemoryStore.find?_create, hnone, if_pos rfl]
    rfl
  | table t =>
    have hrow : t.row? id = none := by
      refine List.find?_eq_none.mpr fun r hr hid => h ?_
      exact List.mem_filterMap.mpr ⟨r, hr, Row.key?_eq_some.mpr (Cell.same_text.mp hid)⟩
    have hid : (Row.ofTask (Task.create id new asked now)).id.same (.text id) = true :=
      Cell.same_text.mpr rfl
    have hlast : (t.create id new asked now).2.row? id =
        some (Row.ofTask (Task.create id new asked now)) := by
      show (t.rows ++ [_]).find? _ = _
      rw [List.find?_append, show t.rows.find? _ = none from hrow, Option.none_or,
        List.find?_singleton, if_pos hid]
    show (table (t.create id new asked now).2).task? id = _
    rw [TableStore.task?_of_row? hlast, Row.toTask_ofTask]
    rfl

theorem gains_create (h : id ∉ s.ids) (new : NewTask) (asked : UInt32) (now : Instant) :
    s.Gains (Task.create id new asked now) (s.create id new asked now).2 where
  unused := h
  ids := ids_create s id new asked now
  task? := by
    show _ = Function.update s.task? id _
    funext i
    by_cases hi : i = id
    · subst hi
      rw [Function.update_self, task?_created h]
    · rw [Function.update_of_ne hi, task?_create hi]
  rest := without_create s id new asked now

/-- Unless it was made in a table with a context that is not read back, a new task is read as it
is. -/
theorem read_eq_ok (h : (∃ m, s = .memory m) ∨ Row.Legible u.context) : s.read u = .ok u := by
  cases s with
  | memory m => rfl
  | table t =>
    rcases h with ⟨m, hm⟩ | hlegible
    · cases hm
    · exact Task.reread_legible hlegible

end Store

namespace Http

/-! ## What a request is answered with -/

/-- The status says that the request was fulfilled. -/
def Response.Succeeds (r : Response) : Prop := 200 ≤ r.status ∧ r.status < 300

instance (r : Response) : Decidable r.Succeeds := inferInstanceAs (Decidable (_ ∧ _))

theorem ApiError.fails (e : ApiError) : ¬e.response.Succeeds := by
  intro h
  have hstatus : 400 ≤ e.status := by cases e <;> simp [status]
  exact absurd h.2 (Nat.not_lt.mpr (Nat.le_trans (by decide) hstatus))

/-- A request of a method that may change something. -/
def Request.Writes (r : Request) : Prop := r.method = "POST" ∨ r.method = "PATCH"

/-- The request names the task with the id, on a route about one task. -/
def Request.Names (r : Request) (route : List Char → Route) (id : TaskId) : Prop :=
  ∃ cs, Route.ofPath? r.target.path = some (route cs) ∧ pathText? cs = some id

theorem readBody_eq_ok {α : Type} {r : Request} {read : Json → Option α} {a : α}
    (h : readBody r read = .ok a) :
    ∃ front, Json.parseFront? r.body = some front ∧ read front.1 = some a := by
  unfold readBody at h
  split at h
  · cases h
  split at h
  · next b hread =>
    cases h
    exact Option.bind_eq_some_iff.mp hread
  · cases h

/-- A new task that is accepted was read from the body and passed the two checks. -/
theorem readNewTask_eq_ok {r : Request} {new : NewTask} (h : readNewTask r = .ok new) :
    readBody r NewTask.ofJson? = .ok new ∧ Text.isBlankText new.direction = false ∧
      new.maxAttempts ≠ some 0 := by
  obtain ⟨read, hread, h⟩ := Task.bind_eq_ok.mp h
  split at h
  · cases h
  · next hblank =>
    split at h
    · cases h
    · next hzero =>
      cases h
      exact ⟨hread, Bool.eq_false_iff.mpr hblank, hzero⟩

/-- The context of a new task is a free-form reading of a part of what the task was read from. -/
theorem context_of_json {room : Nat} {j c : Json} {new : NewTask} (h : NewTask.ofJson? j = some new)
    (hc : new.context = some c) (hj : Json.Nests (room + 1) j) :
    ∃ x, Json.Nests room x ∧ x.canonical = some c := by
  obtain ⟨slots, hslots, h⟩ := Option.bind_eq_some_iff.mp h
  obtain ⟨_, _, h⟩ := Option.bind_eq_some_iff.mp h
  obtain ⟨_, _, h⟩ := Option.bind_eq_some_iff.mp h
  obtain ⟨context, hcontext, h⟩ := Option.bind_eq_some_iff.mp h
  obtain ⟨_, _, h⟩ := Option.bind_eq_some_iff.mp h
  cases h
  obtain rfl : context = some c := hc
  unfold Json.Slots.withDefault at hcontext
  split at hcontext
  · next x hx =>
    refine ⟨x, Json.nests_slots hj hslots hx, ?_⟩
    unfold Json.asOption at hcontext
    split at hcontext
    · cases hcontext
    · obtain ⟨y, hy, heq⟩ := Option.map_eq_some_iff.mp hcontext
      cases heq
      exact hy
  · cases hcontext

/-- The context that a request gives is read back from its text, unless it holds a double. -/
theorem legible_readNewTask {r : Request} {new : NewTask} (h : readNewTask r = .ok new)
    (hexact : ∀ c, new.context = some c → c.isExact = true) : Row.Legible new.context := by
  obtain ⟨front, hfront, hnew⟩ := readBody_eq_ok (readNewTask_eq_ok h).1
  intro c hc
  have hj : Json.Nests (Json.maxDepth + 1) front.1 := Json.value_nests (by omega) hfront
  obtain ⟨x, hx, hcanonical⟩ := context_of_json hnew hc hj
  exact Json.canonical_parse_toText hcanonical hx (hexact c hc)

/-! ## Deeds -/

/-- What a request that is fulfilled has done, if it has done something. -/
inductive Deed where
  | create
  | decide
  | cancel
  | reopen
  deriving DecidableEq, Repr

/-- The status of the task that a deed is done to. A task that is made had none. -/
def Deed.source : Deed → Option TaskStatus
  | create => none
  | decide => some .needsDecision
  | cancel => some .pending
  | reopen => some .failed

theorem Deed.eq_of_source : ∀ {d e : Deed}, d.source = e.source → d = e := by
  intro d e
  cases d <;> cases e <;> decide

/-- `Does a r fresh now s deed u s'`: the deed leaves the task `u`, and the store `s'`. -/
inductive Does (a : Api) (r : Request) (fresh : TaskId) (now : Instant) (s : Store) :
    Deed → Task → Store → Prop where
  | create {new : NewTask} {s' : Store} : r.method = "POST" →
      Route.ofPath? r.target.path = some .tasks → readNewTask r = .ok new →
      s.Gains (Task.create fresh new (a.policy.maxAttemptsFor new.taskType new.maxAttempts) now) s' →
      Does a r fresh now s .create
        (Task.create fresh new (a.policy.maxAttemptsFor new.taskType new.maxAttempts) now) s'
  | decide {t u : Task} {s' : Store} {resolution : Resolution} {output : Option String} :
      r.method = "PATCH" → r.Names .task u.id → readDecision r = .ok (resolution, output) →
      s.task? u.id = some t → t.status = .needsDecision →
      t.Moves now (.resolve resolution output) u → s.Replaces u s' →
      Does a r fresh now s .decide u s'
  | cancel {t u : Task} {s' : Store} : r.method = "POST" → r.Names .cancel u.id →
      s.task? u.id = some t → t.status = .pending → t.cancelled = false →
      t.Moves now .cancel u → s.Replaces u s' → Does a r fresh now s .cancel u s'
  | reopen {t u : Task} {s' : Store} : r.method = "POST" → r.Names .reopen u.id →
      s.task? u.id = some t → t.status = .failed → t.Moves now .reopen u → s.Replaces u s' →
      Does a r fresh now s .reopen u s'

/-- What handling a request comes to: the store is left as it is, by a handler that panics too, or
one deed is done and its task is the answer. -/
inductive Serves (a : Api) (s : Store) (r : Request) (fresh : TaskId) (now : Instant) :
    Handled → Prop where
  | keeps (response : Option Response) : (r.Writes → ∀ answer ∈ response, ¬answer.Succeeds) →
      Serves a s r fresh now (response, s)
  | does {status : Nat} {deed : Deed} {u : Task} {s' : Store} : r.Writes →
      200 ≤ status ∧ status < 300 → Does a r fresh now s deed u s' →
      Serves a s r fresh now (some ⟨status, .json u.toJson⟩, s')

section Handle

variable {a : Api} {s : Store} {r : Request} {fresh : TaskId} {now : Instant}

theorem Does.status_source {deed : Deed} {u : Task} {s' : Store}
    (h : Does a r fresh now s deed u s') : (s.task? u.id).map (·.status) = deed.source := by
  cases h with
  | create _ _ _ hgains => rw [Store.task?_of_unused hgains.unused]; rfl
  | decide _ _ _ ht hs | cancel _ _ ht hs | reopen _ _ ht hs =>
    rw [ht, Option.map_some, hs]
    rfl

/-- The same task cannot come from two different deeds. -/
theorem Does.unique {d e : Deed} {u : Task} {s' : Store} (hd : Does a r fresh now s d u s')
    (he : Does a r fresh now s e u s') : d = e :=
  Deed.eq_of_source (hd.status_source.symm.trans he.status_source)

/-! ## The handlers -/

theorem serves_refusal {response : Response} (h : ¬response.Succeeds) :
    Serves a s r fresh now (leave response s) := by
  refine .keeps _ ?_
  rintro _ _ ⟨⟩
  exact h

theorem serves_error (e : ApiError) : Serves a s r fresh now (leave e.response s) :=
  serves_refusal e.fails

/-- Nothing is changed where the store refuses, and nothing where it panics. -/
theorem serves_failure (e : StoreError) (status : Nat) :
    Serves a s r fresh now (changed (.error e, s) status) := by
  cases e with
  | panicked =>
    refine .keeps _ ?_
    rintro _ _ ⟨⟩
  | row | record | file | unknownBackend | notFound | transition | join => exact serves_error _

/-- A change of one task: the answer tells why it was refused, or about the task that it left. -/
theorem serves_changed (deed : Deed) {op : Operation} {id : TaskId} {step : Answer Task × Store}
    (hwrites : r.Writes)
    (hstep : (∃ e, step = (.error e, s)) ∨
      ∃ t u s', u.id = id ∧ s.task? id = some t ∧ t.Moves now op u ∧ s.Replaces u s' ∧
        step = (.ok u, s'))
    (hdoes : ∀ {t u s'}, u.id = id → s.task? id = some t → t.Moves now op u → s.Replaces u s' →
      Does a r fresh now s deed u s') :
    Serves a s r fresh now (changed step 200) := by
  rcases hstep with ⟨e, rfl⟩ | ⟨t, u, s', hid, ht, hmoves, hreplaces, rfl⟩
  · exact serves_failure e 200
  · exact .does hwrites (by decide) (hdoes hid ht hmoves hreplaces)

theorem serves_create (hm : r.method = "POST") (hp : Route.ofPath? r.target.path = some .tasks)
    (hfresh : fresh ∉ s.ids) : Serves a s r fresh now (a.createTask s r fresh now) := by
  unfold Api.createTask
  split
  · next e _ => exact serves_error e
  · next new hread =>
    have hok : ∀ asked, (s.create fresh new asked now).1 =
        .ok (Task.create fresh new asked now) := by
      intro asked
      cases s <;> rfl
    simp only [changed, hok]
    exact .does (.inl hm) (by decide) (.create hm hp hread (Store.gains_create hfresh new _ now))

theorem serves_decide (hm : r.method = "PATCH") {id : TaskId} (hn : r.Names .task id) :
    Serves a s r fresh now (Api.decideTask s r id now) := by
  unfold Api.decideTask
  split
  · next e _ => exact serves_error e
  · next resolution output hread =>
    have hstep := s.asked_replaces (.resolve id resolution output) now rfl rfl (by simp)
      Task.reply_map
    refine serves_changed .decide (.inr hm) hstep ?_
    rintro t u s' rfl ht hmoves hreplaces
    have hs : t.status = .needsDecision := by cases hmoves <;> assumption
    exact .decide hm hn hread ht hs hmoves hreplaces

theorem serves_cancel (hm : r.method = "POST") {id : TaskId} (hn : r.Names .cancel id) :
    Serves a s r fresh now (changed (s.cancel id now) 200) := by
  have hstep := s.asked_replaces (.cancel id) now rfl rfl (by simp) Task.reply_map
  refine serves_changed .cancel (.inl hm) hstep ?_
  rintro t u s' rfl ht hmoves hreplaces
  obtain ⟨hs, hc⟩ : t.status = .pending ∧ t.cancelled = false := by
    cases hmoves
    exact ⟨‹_›, ‹_›⟩
  exact .cancel hm hn ht hs hc hmoves hreplaces

theorem serves_reopen (hm : r.method = "POST") {id : TaskId} (hn : r.Names .reopen id) :
    Serves a s r fresh now (changed (s.reopen id now) 200) := by
  have hstep := s.asked_replaces (.reopen id) now rfl rfl (by simp) Task.reply_map
  refine serves_changed .reopen (.inl hm) hstep ?_
  rintro t u s' rfl ht hmoves hreplaces
  have hs : t.status = .failed := by cases hmoves; assumption
  exact .reopen hm hn ht hs hmoves hreplaces

/-- A request about one task, whose id has to be a text. -/
theorem serves_withId {handle : TaskId → Handled} {route : List Char → Route}
    {cs : List Char} (hp : Route.ofPath? r.target.path = some (route cs))
    (h : ∀ {id}, r.Names route id → Serves a s r fresh now (handle id)) :
    Serves a s r fresh now (Api.withId s cs handle) := by
  unfold Api.withId
  split
  · next id hid => exact h ⟨cs, hp, hid⟩
  · exact serves_refusal (by decide)

/-- A request that reads leaves the store as it is. -/
theorem get_keeps {route : Route} {p : Handled} (h : a.get s r now route = some p) :
    p.2 = s := by
  cases route with
  | tasks =>
    obtain rfl := Option.some.inj h
    split <;> rfl
  | task id =>
    obtain rfl := Option.some.inj h
    unfold Api.withId
    split <;> rfl
  | issues | effectiveness | health => obtain rfl := Option.some.inj h; rfl
  | cancel | reopen => cases h

/-- **Handling a request changes nothing, or does one deed.** -/
theorem serves_handle (hfresh : fresh ∉ s.ids) :
    Serves a s r fresh now (a.handle s r fresh now) := by
  have hnone : Serves a s r fresh now (leave (noBody 405) s) := serves_refusal (by decide)
  unfold Api.handle
  split
  · exact serves_refusal (by decide)
  · next route hp =>
    split
    · next hm =>
      have hreads : ¬r.Writes := by simp [Request.Writes, hm]
      cases hget : a.get s r now route with
      | none => exact hnone
      | some p =>
        obtain ⟨response, s'⟩ := p
        cases get_keeps hget
        exact .keeps response fun h => absurd h hreads
    · next hm =>
      have hreads : ¬r.Writes := by simp [Request.Writes, hm]
      cases hget : a.get s r now route with
      | none => exact hnone
      | some p =>
        obtain ⟨response, s'⟩ := p
        cases get_keeps hget
        exact .keeps _ fun h => absurd h hreads
    · next hm =>
      cases route with
      | tasks => exact serves_create hm hp hfresh
      | cancel cs => exact serves_withId hp (serves_cancel hm)
      | reopen cs => exact serves_withId hp (serves_reopen hm)
      | task | issues | effectiveness | health => exact hnone
    · next hm =>
      cases route with
      | task cs => exact serves_withId hp (serves_decide hm)
      | tasks | cancel | reopen | issues | effectiveness | health => exact hnone
    · exact hnone

end Handle

end Http

end TaskPipeline
