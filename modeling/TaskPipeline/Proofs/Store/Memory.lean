import Mathlib.Data.List.Forall2
import Mathlib.Data.List.Nodup
import TaskPipeline.Proofs.Store.Call
import TaskPipeline.Proofs.Store.Row

/-!
# The store in memory

What a reader finds under an id after each kind of change: an operation on one task, a sweep over
all of them, a new task.
-/

namespace TaskPipeline

/-! ## Lists of tasks with ids of their own -/

theorem map_eq_of_forall₂ {α β γ : Type} {R : α → β → Prop} {f : α → γ} {g : β → γ}
    {xs : List α} {ys : List β} (h : List.Forall₂ R xs ys) (hR : ∀ x y, R x y → g y = f x) :
    ys.map g = xs.map f := by
  induction h with
  | nil => rfl
  | cons hxy _ ih => rw [List.map_cons, List.map_cons, hR _ _ hxy, ih]

theorem exists_of_forall₂ {α β : Type} {R : α → β → Prop} {xs : List α} {ys : List β}
    (h : List.Forall₂ R xs ys) {y : β} (hy : y ∈ ys) : ∃ x ∈ xs, R x y := by
  induction h with
  | nil => cases hy
  | @cons x _ _ _ hxy _ ih =>
    rcases List.mem_cons.mp hy with rfl | hy
    · exact ⟨x, List.mem_cons_self, hxy⟩
    · obtain ⟨x, hx, hR⟩ := ih hy
      exact ⟨x, List.mem_cons_of_mem _ hx, hR⟩

namespace Task

theorem eq_of_mem {ts : List Task} (hd : (ts.map (·.id)).Nodup) {t u : Task} (ht : t ∈ ts)
    (hu : u ∈ ts) (he : t.id = u.id) : t = u := List.inj_on_of_nodup_map hd ht hu he

theorem find?_of_mem {ts : List Task} (hd : (ts.map (·.id)).Nodup) {t : Task} (h : t ∈ ts) :
    ts.find? (·.id == t.id) = some t := by
  cases hf : ts.find? (·.id == t.id) with
  | none => exact absurd (beq_self_eq_true t.id) (by simpa using List.find?_eq_none.mp hf t h)
  | some u =>
    have he : u.id = t.id := by simpa using List.find?_some hf
    rw [eq_of_mem hd (List.mem_of_find?_eq_some hf) h he]

/-- The task that stands for this one among others, by its id. Its context stays. -/
def adopted (us : List Task) (t : Task) : Task :=
  match us.find? (·.id == t.id) with
  | some u => u.withContext t.context
  | none => t

theorem adopted_of_not_mem {us : List Task} {t : Task} (h : t.id ∉ us.map (·.id)) :
    t.adopted us = t := by
  have hf : us.find? (·.id == t.id) = none :=
    List.find?_eq_none.mpr fun u hu he => h (List.mem_map.mpr ⟨u, hu, by simpa using he⟩)
  rw [adopted, hf]

theorem adopted_cons_self {us : List Task} {t u : Task} (he : u.id = t.id) :
    t.adopted (u :: us) = u.withContext t.context := by
  rw [adopted, List.find?_cons_of_pos (by simpa using he)]

theorem adopted_cons_ne {us : List Task} {t u : Task} (he : u.id ≠ t.id) :
    t.adopted (u :: us) = t.adopted us := by
  rw [adopted, List.find?_cons_of_neg (by simpa using he), adopted]

end Task

namespace MemoryStore

/-! ## Reading after a change -/

/-- No two tasks have one id. -/
def Distinct (s : MemoryStore) : Prop := (s.tasks.map (·.id)).Nodup

theorem id_of_find? {s : MemoryStore} {id : TaskId} {t : Task} (h : s.find? id = some t) :
    t.id = id := by
  simpa using List.find?_some h

theorem mem_of_find? {s : MemoryStore} {id : TaskId} {t : Task} (h : s.find? id = some t) :
    t ∈ s.tasks := List.mem_of_find?_eq_some h

theorem find?_of_mem {s : MemoryStore} (hd : s.Distinct) {t : Task} (h : t ∈ s.tasks) :
    s.find? t.id = some t := Task.find?_of_mem hd h

/-- The task that is found under an id is the only one with it. -/
theorem eq_of_find? {s : MemoryStore} (hd : s.Distinct) {id : TaskId} {t v : Task}
    (hf : s.find? id = some t) (hv : v ∈ s.tasks) (he : v.id = id) : v = t := by
  have h := find?_of_mem hd hv
  rw [he, hf] at h
  exact (Option.some.inj h).symm

/-- A change of every task that keeps the ids changes what is found. -/
theorem find?_map {f : Task → Task} (hf : ∀ t, (f t).id = t.id) (ts : List Task) (id : TaskId) :
    (ts.map f).find? (·.id == id) = (ts.find? (·.id == id)).map f := by
  rw [List.find?_map]
  simp only [Function.comp_def, hf]

theorem find?_put {s : MemoryStore} {t u : Task} (h : s.find? u.id = some t) (id : TaskId) :
    (s.put u).find? id = if id = u.id then some u else s.find? id := by
  have hkeep : ∀ t : Task, (if t.id = u.id then u else t).id = t.id := by
    intro t
    split
    · next he => exact he.symm
    · rfl
  have hmap : (s.put u).find? id = (s.find? id).map fun t => if t.id = u.id then u else t :=
    find?_map hkeep s.tasks id
  rw [hmap]
  by_cases hid : id = u.id
  · subst hid
    rw [h, Option.map_some, if_pos (id_of_find? h), if_pos rfl]
  · rw [if_neg hid]
    cases hf : s.find? id with
    | none => rfl
    | some v => rw [Option.map_some, if_neg (id_of_find? hf ▸ hid)]

theorem ids_put (s : MemoryStore) (u : Task) :
    (s.put u).tasks.map (·.id) = s.tasks.map (·.id) := by
  rw [put, List.map_map]
  refine List.map_congr_left ?_
  intro t _
  show (if t.id = u.id then u else t).id = t.id
  split
  · next he => exact he.symm
  · rfl

/-- A new task is found under its id, unless an older one has it. -/
theorem find?_create (s : MemoryStore) (id : TaskId) (new : NewTask) (maxAttempts : UInt32)
    (now : Instant) (i : TaskId) :
    (s.create id new maxAttempts now).2.find? i =
      (s.find? i).or (if i = id then some (Task.create id new maxAttempts now) else none) := by
  show (s.tasks ++ [Task.create id new maxAttempts now]).find? (fun t => t.id == i) = _
  rw [List.find?_append, List.find?_singleton]
  have : ((Task.create id new maxAttempts now).id == i) = decide (i = id) := by
    rw [beq_eq_decide, decide_eq_decide.mpr eq_comm]; rfl
  rw [this]
  simp only [decide_eq_true_eq]
  rfl

/-- The store after a claim. -/
theorem claim_missing {s : MemoryStore} {id : TaskId} (hf : s.find? id = none) (worker : WorkerId)
    (now : Instant) : (s.claim id worker now).2 = s := by
  rw [claim, hf]

theorem claim_won {s : MemoryStore} {id : TaskId} {t : Task} {now : Instant}
    (hf : s.find? id = some t) (hc : t.isClaimable now = true) (worker : WorkerId) :
    (s.claim id worker now).2 = s.put (t.heldBy worker now) := by
  simp only [claim, hf, Task.claim_won hc]

theorem claim_lost {s : MemoryStore} {id : TaskId} {t : Task} {now : Instant}
    (hf : s.find? id = some t) (hc : t.isClaimable now = false) (worker : WorkerId) :
    (s.claim id worker now).2 = s := by
  simp only [claim, hf, Task.claim_lost hc]

/-! ## One operation on one task -/

/-- What an operation leaves if the task cannot be read: only a claim is written before that. -/
def unread (s : MemoryStore) (now : Instant) (id : TaskId) : Operation → MemoryStore
  | .claim worker => (s.claim id worker now).2
  | _ => s

/-- An operation on the task with an id, as that task is read and as the store fails. What is
answered is about the task that was read; the task that is kept keeps the context that it had. -/
def asked (read : Task → Row.Read Task) (fail : Fault → StoreError) (s : MemoryStore)
    (now : Instant) (id : TaskId) (op : Operation) : Answer Reply × MemoryStore :=
  match s.find? id with
  | none => (.error (.notFound id), s)
  | some t =>
    match read t with
    | .error e => (.error (.row e), s.unread now id op)
    | .ok v =>
      match v.carry op now with
      | .error e => (op.refusal fail e, s)
      | .ok (q, u) => (.ok q, s.put (u.withContext t.context))

section Asked

variable {read : Task → Row.Read Task} {fail : Fault → StoreError} {s : MemoryStore}
  {now : Instant} {id : TaskId} {op : Operation} {t u v : Task} {q : Reply}

theorem asked_missing (hf : s.find? id = none) :
    s.asked read fail now id op = (.error (.notFound id), s) := by
  simp only [asked, hf]

theorem asked_unread {e : ColumnError} (hf : s.find? id = some t) (hr : read t = .error e) :
    s.asked read fail now id op = (.error (.row e), s.unread now id op) := by
  simp only [asked, hf, hr]

theorem asked_refused {e : Fault} (hf : s.find? id = some t) (hr : read t = .ok v)
    (hc : v.carry op now = .error e) : s.asked read fail now id op = (op.refusal fail e, s) := by
  simp only [asked, hf, hr, hc]

theorem asked_carried (hf : s.find? id = some t) (hr : read t = .ok v)
    (hc : v.carry op now = .ok (q, u)) :
    s.asked read fail now id op = (.ok q, s.put (u.withContext t.context)) := by
  simp only [asked, hf, hr, hc]

/-- A task that is read as it is is put back as the operation leaves it. -/
theorem asked_whole (hf : s.find? id = some t) (hr : read t = .ok t)
    (hc : t.carry op now = .ok (q, u)) : s.asked read fail now id op = (.ok q, s.put u) := by
  obtain ⟨_, _, _, hcontext, _⟩ := (Task.moves_of_carry hc).keeps
  rw [asked_carried hf hr hc, ← hcontext]
  rfl

theorem find?_put_self (hf : s.find? id = some t) (hu : u.id = id) :
    (s.put u).find? id = some u := by
  subst hu
  rw [find?_put hf, if_pos rfl]

end Asked

/-- Any change of the task with an id. -/
theorem answered_update {α : Type} (s : MemoryStore) (id : TaskId) {now : Instant} {op : Operation}
    {change : Task → Except Fault (α × Task)} {wrap : α × Task → Reply}
    (hcarry : ∀ t, t.carry op now = (change t).map fun r => (wrap r, r.2))
    (hrefusal : ∀ e, op.refusal .inCaller e = .error (.inCaller e)) :
    Store.answered wrap (Store.lift .memory (s.update id change)) =
      Store.lift .memory (s.asked .ok .inCaller now id op) := by
  unfold update
  cases hf : s.find? id with
  | none => rw [asked_missing hf]; rfl
  | some t =>
    dsimp only
    cases hc : change t with
    | error e => rw [asked_refused hf rfl (by rw [hcarry, hc]; rfl), hrefusal]; rfl
    | ok r => rw [asked_whole hf rfl (by rw [hcarry, hc]; rfl)]; rfl

theorem answered_transition (s : MemoryStore) (id : TaskId) {now : Instant} {op : Operation}
    {change : Task → Except Fault Task} {wrap : Task → Reply}
    (hcarry : ∀ t, t.carry op now = (change t).map fun u => (wrap u, u))
    (hrefusal : ∀ e, op.refusal .inCaller e = .error (.inCaller e)) :
    Store.answered wrap (Store.lift .memory (s.transition id change)) =
      Store.lift .memory (s.asked .ok .inCaller now id op) := by
  refine (Store.answered_map _ wrap (Store.lift .memory (s.update id _))).trans
    (answered_update s id (fun t => ?_) hrefusal)
  rw [hcarry]
  cases change t <;> rfl

/-- What a call does that asks for an operation on one task. -/
theorem perform_asks (s : MemoryStore) (now : Instant) {c : Call} {id : TaskId} {op : Operation}
    (h : c.asks = some (id, op)) :
    (Store.memory s).perform now c = Store.lift .memory (s.asked .ok .inCaller now id op) := by
  cases c <;> cases h
  case claim worker =>
    simp only [Store.perform, Store.claim, claim]
    cases hf : s.find? id with
    | none => rw [asked_missing hf]; rfl
    | some t =>
      dsimp only
      cases hc : t.claim worker now with
      | error e => rw [asked_refused hf rfl (by rw [Task.carry, hc]; rfl)]; rfl
      | ok u => rw [asked_whole hf rfl (by rw [Task.carry, hc]; rfl)]; rfl
  case recordOutcome attempt decision =>
    exact answered_update s id (fun _ => rfl) fun _ => rfl
  case start | resolve | reopen | cancel =>
    exact answered_transition s id (fun _ => rfl) fun _ => rfl
  case touch worker =>
    exact (Store.answered_map _ _ (Store.lift .memory (s.transition id _))).trans
      (answered_transition s id (fun _ => rfl) fun _ => rfl)

/-! ## Sweeps -/

/-- Puts each of some tasks in the place of the one with its id. -/
def adopt (s : MemoryStore) (us : List Task) : MemoryStore :=
  { s with tasks := s.tasks.map (·.adopted us) }

theorem adopt_nil (s : MemoryStore) : s.adopt [] = s := by
  have h : ∀ t ∈ s.tasks, t.adopted [] = t := fun t _ => Task.adopted_of_not_mem (by simp)
  rw [adopt, List.map_congr_left h, List.map_id']

/-- Some tasks are adopted one after the other. -/
theorem adopt_cons {s : MemoryStore} (hd : s.Distinct) {t u : Task} {us : List Task}
    (ht : s.find? u.id = some t) (hu : u.id ∉ us.map (·.id)) :
    s.adopt (u :: us) = (s.put (u.withContext t.context)).adopt us := by
  unfold adopt put
  rw [List.map_map]
  congr 1
  refine List.map_congr_left ?_
  intro v hv
  show v.adopted (u :: us) =
    (if v.id = u.id then u.withContext t.context else v).adopted us
  by_cases he : v.id = u.id
  · rw [if_pos he, Task.adopted_cons_self he.symm,
      Task.adopted_of_not_mem (t := u.withContext t.context) hu, eq_of_find? hd ht hv he]
  · rw [if_neg he, Task.adopted_cons_ne (Ne.symm he)]

section Sweep

variable {α : Type} {select : Task → Bool} {change : Task → Except Fault (α × Task)}

/-- What the changes of a sweep report. -/
def reports (rs : List (α × Task)) : List (TaskId × α) := rs.map fun r => (r.2.id, r.1)

/-- A sweep in memory changes the tasks that it selects, each as it is. -/
theorem sweep_adopts (hkeeps : ∀ {t a u}, change t = .ok (a, u) →
      u.id = t.id ∧ u.context = t.context) {ts : List Task} {rs : List (α × Task)}
    (hd : (ts.map (·.id)).Nodup)
    (hrs : List.Forall₂ (fun t r => change t = .ok r) (ts.filter select) rs) :
    sweep select change ts = (reports rs, ts.map (·.adopted (rs.map (·.2)))) := by
  induction ts generalizing rs with
  | nil => cases hrs; rfl
  | cons t ts ih =>
    obtain ⟨hnew, hd⟩ := List.nodup_cons.mp hd
    rw [sweep]
    by_cases hs : select t
    · rw [List.filter_cons_of_pos hs] at hrs
      obtain ⟨r, rest, hr, hrest, rfl⟩ := List.forall₂_cons_left_iff.mp hrs
      obtain ⟨hid, hcontext⟩ := hkeeps hr
      have hothers : ∀ v ∈ ts, v.adopted ((r :: rest).map (·.2)) = v.adopted (rest.map (·.2)) :=
        fun v hv => Task.adopted_cons_ne fun he =>
          hnew (List.mem_map.mpr ⟨v, hv, by rw [← he, hid]⟩)
      have hself : t.adopted ((r :: rest).map (·.2)) = r.2 := by
        rw [List.map_cons, Task.adopted_cons_self hid, ← hcontext]
        rfl
      rw [ih hd hrest, List.map_cons, hself, List.map_congr_left hothers]
      simp only [if_pos hs, hr, reports, List.map_cons, hid]
    · rw [List.filter_cons_of_neg hs] at hrs
      have hself : t.adopted (rs.map (·.2)) = t := by
        refine Task.adopted_of_not_mem fun hmem => hnew ?_
        have hids : rs.map (fun r => r.2.id) = (ts.filter select).map (·.id) :=
          map_eq_of_forall₂ hrs fun _ _ h => (hkeeps h).1
        rw [List.map_map, Function.comp_def, hids] at hmem
        obtain ⟨v, hv, he⟩ := List.mem_map.mp hmem
        exact List.mem_map.mpr ⟨v, List.mem_of_mem_filter hv, he⟩
      rw [ih hd hrs, List.map_cons, hself]
      simp only [if_neg hs]

end Sweep

end MemoryStore

end TaskPipeline
