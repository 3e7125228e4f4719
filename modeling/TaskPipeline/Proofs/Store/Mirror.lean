import TaskPipeline.Proofs.Store.Memory

/-!
# A table mirrors a store in memory

A table whose rows are those of the tasks of a store in memory does to them what that store does,
as far as it can read them: `perform_asks` for an operation on one task, `sweep_mirrored` for a
sweep. Nothing is assumed about contexts here; a task whose context cannot be read back is refused
with an error about its row.
-/

namespace TaskPipeline

namespace Task

variable {t u v : Task}

/-- A task is read as itself but for its context. -/
theorem reread_eq_ok (h : t.reread = .ok v) :
    ∃ context, t.storedContext = .ok context ∧ v = t.withContext context := by
  obtain ⟨context, hc, rfl⟩ := map_eq_ok.mp h
  exact ⟨context, hc, rfl⟩

theorem reread_id (h : t.reread = .ok v) : v.id = t.id := by
  obtain ⟨_, _, rfl⟩ := reread_eq_ok h
  rfl

theorem reread_heldBy (t : Task) (worker : WorkerId) (now : Instant) :
    (t.heldBy worker now).reread = t.reread.map (·.heldBy worker now) := by
  have hs : (t.heldBy worker now).storedContext = t.storedContext := rfl
  rw [reread, reread, hs]
  cases t.storedContext <;> rfl

end Task

namespace TableStore

/-- The rows of the table are those of the tasks in memory, in the same order. -/
def Mirrors (s : TableStore) (m : MemoryStore) : Prop := s.rows = m.tasks.map Row.ofTask

variable {s : TableStore} {m : MemoryStore}

/-! ## One task -/

theorem row?_mirrored (hm : s.Mirrors m) (id : TaskId) :
    s.row? id = (m.find? id).map Row.ofTask := by
  rw [row?, hm, List.find?_map]
  rfl

theorem load_mirrored (hm : s.Mirrors m) (id : TaskId) :
    s.load id =
      match m.find? id with
      | none => .error (.notFound id)
      | some t =>
        match t.reread with
        | .ok v => .ok v
        | .error e => .error (.row e) := by
  rw [load, row?_mirrored hm]
  cases m.find? id with
  | none => rfl
  | some t => cases hr : t.reread <;> simp only [Option.map_some, Row.toTask_ofTask, hr]

theorem mirrors_modify (hm : s.Mirrors m) {id : TaskId} {f : Row → Row} {g : Task → Task}
    (h : ∀ t ∈ m.tasks, t.id = id → f (Row.ofTask t) = Row.ofTask (g t)) :
    (s.modify id f).Mirrors
      { m with tasks := m.tasks.map fun t => if t.id = id then g t else t } := by
  show (s.rows.map fun r => if r.id.same (.text id) then f r else r) = _
  rw [hm, List.map_map, List.map_map]
  refine List.map_congr_left ?_
  intro t ht
  show (if (Row.ofTask t).id.same (.text id) then f (Row.ofTask t) else Row.ofTask t) =
    Row.ofTask (if t.id = id then g t else t)
  rw [Row.same_id]
  by_cases hid : t.id = id
  · rw [if_pos hid, if_pos (by simpa using hid), h t ht hid]
  · rw [if_neg hid, if_neg (by simpa using hid)]

theorem mirrors_save (hm : s.Mirrors m) (hd : m.Distinct) {t u : Task}
    (ht : m.find? t.id = some t) (hu : u.id = t.id ∧ u.taskType = t.taskType ∧
      u.direction = t.direction ∧ u.createdAt = t.createdAt) :
    (s.save u).Mirrors (m.put (u.withContext t.context)) := by
  refine mirrors_modify (g := fun _ => u.withContext t.context) hm ?_
  intro v hv hid
  rw [MemoryStore.eq_of_find? hd ht hv (hid.trans hu.1)]
  exact Row.save_ofTask hu

/-- A step of the table that answers and leaves what a step of the store it mirrors does. -/
def Follows (s : TableStore) (step : Answer Reply × Store) (spec : Answer Reply × MemoryStore) :
    Prop :=
  ∃ t : TableStore, step = (spec.1, .table t) ∧ t.Mirrors spec.2 ∧ t.records = s.records

/-- Any change that is carried out on the task that was read, and written back. -/
theorem follows_update {α : Type} (hm : s.Mirrors m) (hd : m.Distinct) {now : Instant}
    {id : TaskId} {op : Operation} {change : Task → Except Fault (α × Task)}
    {wrap : α × Task → Reply}
    (hcarry : ∀ t, t.carry op now = (change t).map fun r => (wrap r, r.2))
    (hrefusal : ∀ e, op.refusal .inTask e = .error (.inTask e)) :
    s.Follows (Store.answered wrap (Store.lift .table (s.update id change)))
      (m.asked Task.reread .inTask now id op) := by
  have hload := load_mirrored hm id
  have hunread : m.unread now id op = m := by
    cases op with
    | claim worker => exact nomatch hrefusal .overflow
    | _ => rfl
  unfold update
  cases hf : m.find? id with
  | none =>
    rw [MemoryStore.asked_missing hf, hload, hf]
    exact ⟨s, rfl, hm, rfl⟩
  | some t =>
    simp only [hf] at hload
    cases hr : t.reread with
    | error e =>
      simp only [hr] at hload
      rw [MemoryStore.asked_unread hf hr, hload, hunread]
      exact ⟨s, rfl, hm, rfl⟩
    | ok v =>
      simp only [hr] at hload
      rw [hload]
      dsimp only
      cases hc : change v with
      | error e =>
        rw [MemoryStore.asked_refused hf hr (by rw [hcarry, hc]; rfl), hrefusal]
        exact ⟨s, rfl, hm, rfl⟩
      | ok r =>
        have hv : v.carry op now = .ok (wrap r, r.2) := by rw [hcarry, hc]; rfl
        obtain ⟨hi, ht, hdir, _, hcr⟩ := (Task.moves_of_carry hv).keeps
        obtain ⟨context, _, rfl⟩ := Task.reread_eq_ok hr
        have hid : m.find? t.id = some t := by rw [MemoryStore.id_of_find? hf]; exact hf
        rw [MemoryStore.asked_carried hf hr hv]
        exact ⟨s.save r.2, rfl, mirrors_save hm hd hid ⟨hi, ht, hdir, hcr⟩, rfl⟩

theorem follows_transition (hm : s.Mirrors m) (hd : m.Distinct) {now : Instant} {id : TaskId}
    {op : Operation} {change : Task → Except Fault Task} {wrap : Task → Reply}
    (hcarry : ∀ t, t.carry op now = (change t).map fun u => (wrap u, u))
    (hrefusal : ∀ e, op.refusal .inTask e = .error (.inTask e)) :
    s.Follows (Store.answered wrap (Store.lift .table (s.transition id change)))
      (m.asked Task.reread .inTask now id op) := by
  have h : s.Follows (Store.answered (fun r : Unit × Task => wrap r.2)
      (Store.lift .table (s.update id fun t => (change t).map fun t => ((), t))))
      (m.asked Task.reread .inTask now id op) :=
    follows_update hm hd (fun t => by rw [hcarry]; cases change t <;> rfl) hrefusal
  rwa [← Store.answered_map] at h

theorem claimRow_ofTask (worker : WorkerId) (now : Instant) (t : Task) :
    claimRow worker now (Row.ofTask t) =
      Row.ofTask (if t.isClaimable now then t.heldBy worker now else t) := by
  rw [claimRow, Row.mayBeClaimed_ofTask]
  split <;> rfl

theorem mirrors_claim (hm : s.Mirrors m) (hd : m.Distinct) (now : Instant) (id : TaskId)
    (worker : WorkerId) :
    (s.modify id (claimRow worker now)).Mirrors (m.claim id worker now).2 := by
  cases hf : m.find? id with
  | none =>
    rw [MemoryStore.claim_missing hf]
    have h := mirrors_modify (f := claimRow worker now) (g := fun t => t) hm
      fun t ht hid => absurd hid (by simpa using List.find?_eq_none.mp hf t ht)
    simpa using h
  | some t =>
    cases hc : t.isClaimable now with
    | true =>
      rw [MemoryStore.claim_won hf hc]
      have hid := MemoryStore.id_of_find? hf
      subst hid
      refine mirrors_modify hm ?_
      intro v hv he
      rw [MemoryStore.eq_of_find? hd hf hv he, claimRow_ofTask, if_pos hc]
    | false =>
      rw [MemoryStore.claim_lost hf hc]
      have h := mirrors_modify (f := claimRow worker now) (g := fun t => t) hm
        fun v hv he => by
          rw [MemoryStore.eq_of_find? hd hf hv he, claimRow_ofTask, if_neg (by simp [hc])]
      simpa using h

/-- After a claim the row is read as before, in the hands of the worker if it could be claimed. -/
theorem load_claimed (hm : s.Mirrors m) (hd : m.Distinct) {id : TaskId} {t : Task}
    (hf : m.find? id = some t) (worker : WorkerId) (now : Instant) :
    (s.modify id (claimRow worker now)).load id =
      match t.reread with
      | .ok v => .ok (if t.isClaimable now then v.heldBy worker now else v)
      | .error e => .error (.row e) := by
  have hload := load_mirrored (mirrors_claim hm hd now id worker) id
  cases hc : t.isClaimable now with
  | true =>
    have hid := MemoryStore.id_of_find? hf
    have hheld : (m.put (t.heldBy worker now)).find? id = some (t.heldBy worker now) :=
      MemoryStore.find?_put_self (u := t.heldBy worker now) hf hid
    simp only [MemoryStore.claim_won hf hc, hheld, Task.reread_heldBy] at hload
    cases hr : t.reread <;> simpa [hr, Except.map] using hload
  | false =>
    simp only [MemoryStore.claim_lost hf hc, hf] at hload
    cases hr : t.reread <;> simpa [hr] using hload

/-- A claim is written into the row, and only then the row is read. -/
theorem follows_claim (hm : s.Mirrors m) (hd : m.Distinct) (now : Instant) (id : TaskId)
    (worker : WorkerId) :
    s.Follows (Store.answered .claim (Store.lift .table (s.claim id worker now)))
      (m.asked Task.reread .inTask now id (.claim worker)) := by
  have hmod := mirrors_claim hm hd now id worker
  have hwon : (s.row? id).any (mayBeClaimed now) = (m.find? id).any (·.isClaimable now) := by
    rw [row?_mirrored hm]
    cases m.find? id with
    | none => rfl
    | some t => exact Row.mayBeClaimed_ofTask t now
  simp only [claim, hwon]
  cases hf : m.find? id with
  | none =>
    rw [MemoryStore.claim_missing hf] at hmod
    rw [MemoryStore.asked_missing hf, load_mirrored hmod, hf]
    exact ⟨_, rfl, hmod, rfl⟩
  | some t =>
    rw [load_claimed hm hd hf]
    cases hr : t.reread with
    | error e =>
      rw [MemoryStore.asked_unread hf hr]
      exact ⟨_, rfl, hmod, rfl⟩
    | ok v =>
      obtain ⟨context, _, rfl⟩ := Task.reread_eq_ok hr
      cases hc : t.isClaimable now with
      | true =>
        have hcarry : (t.withContext context).carry (.claim worker) now =
            .ok (.claim (.claimed ((t.withContext context).heldBy worker now)),
              (t.withContext context).heldBy worker now) := by
          rw [Task.carry, Task.claim_won (t := t.withContext context) hc]; rfl
        rw [MemoryStore.claim_won hf hc] at hmod
        rw [MemoryStore.asked_carried hf hr hcarry]
        simp only [Option.any_some, hc]
        exact ⟨_, rfl, hmod, rfl⟩
      | false =>
        have hcarry : (t.withContext context).carry (.claim worker) now =
            .error (t.illegal .claim) := by
          rw [Task.carry, Task.claim_lost (t := t.withContext context) hc]; rfl
        rw [MemoryStore.claim_lost hf hc] at hmod
        rw [MemoryStore.asked_refused hf hr hcarry]
        simp only [Option.any_some, hc]
        exact ⟨_, rfl, hmod, rfl⟩

/-- **A table answers about one task as the store that it mirrors**, once the task is read. -/
theorem perform_asks (hm : s.Mirrors m) (hd : m.Distinct) (now : Instant) {c : Call} {id : TaskId}
    {op : Operation} (h : c.asks = some (id, op)) :
    s.Follows ((Store.table s).perform now c) (m.asked Task.reread .inTask now id op) := by
  cases c <;> cases h
  case claim worker => exact follows_claim hm hd now id worker
  case recordOutcome attempt decision =>
    exact follows_update hm hd (fun _ => rfl) fun _ => rfl
  case start | resolve | reopen | cancel =>
    exact follows_transition hm hd (fun _ => rfl) fun _ => rfl
  case touch worker =>
    have h : s.Follows (Store.answered (fun _ => .done)
        (Store.lift .table (s.transition id (·.touch worker now))))
        (m.asked Task.reread .inTask now id (.touch worker)) :=
      follows_transition hm hd (fun _ => rfl) fun _ => rfl
    rwa [← Store.answered_map (fun _ => ()) (fun _ => Reply.done)] at h

/-! ## Several tasks -/

/-- The tasks by creation time, the earliest first, equal ones in the order of creation. -/
def byAge (ts : List Task) : List Task := ts.mergeSort fun t u => t.createdAt ≤ u.createdAt

theorem oldestFirst_mirrored (ts : List Task) :
    oldestFirst (ts.map Row.ofTask) = (byAge ts).map Row.ofTask := by
  unfold oldestFirst byAge
  exact (List.map_mergeSort (f := Row.ofTask)
    fun t _ u _ => (Row.sortsUpTo_createdAt t u).symm).symm

theorem readAll_mirrored (ts : List Task) :
    readAll (ts.map Row.ofTask) =
      match ts.mapM Task.reread with
      | .ok vs => .ok vs
      | .error e => .error (.row e) := by
  have hm : (ts.map Row.ofTask).mapM Row.toTask = ts.mapM Task.reread := by
    induction ts with
    | nil => rfl
    | cons t ts ih => rw [List.map_cons, List.mapM_cons, List.mapM_cons, Row.toTask_ofTask, ih]
  cases hr : ts.mapM Task.reread <;> simp only [readAll, hm, hr]

theorem filter_mirrored (hm : s.Mirrors m) {p : Row → Bool} {select : Task → Bool}
    (h : ∀ t, p (Row.ofTask t) = select t) :
    s.rows.filter p = (m.tasks.filter select).map Row.ofTask := by
  rw [hm, List.filter_map]
  congr 2
  exact funext h

theorem forall₂_of_mapM {α β ε : Type} {f : α → Except ε β} {xs : List α} {ys : List β}
    (h : xs.mapM f = .ok ys) : List.Forall₂ (fun x y => f x = .ok y) xs ys := by
  induction xs generalizing ys with
  | nil => cases h; exact .nil
  | cons x xs ih =>
    rw [List.mapM_cons] at h
    obtain ⟨y, hy, h⟩ := Task.bind_eq_ok.mp h
    obtain ⟨rest, hrest, h⟩ := Task.bind_eq_ok.mp h
    cases h
    exact .cons hy (ih hrest)

section Sweep

variable {α : Type} {change : Task → Except Fault (α × Task)}

/-- Tasks that were read are changed and written back one after the other. -/
theorem sweepTasks_mirrored
    (hkeeps : ∀ {t a u}, change t = .ok (a, u) → u.id = t.id ∧ u.taskType = t.taskType ∧
      u.direction = t.direction ∧ u.context = t.context ∧ u.createdAt = t.createdAt)
    {vs : List Task} {rs : List (α × Task)} (hm : s.Mirrors m) (hd : m.Distinct)
    (hids : (vs.map (·.id)).Nodup) (hread : ∀ v ∈ vs, ∃ t ∈ m.tasks, t.reread = .ok v)
    (hrs : List.Forall₂ (fun v r => change v = .ok r) vs rs) :
    ∃ s', sweepTasks change vs s = .ok (MemoryStore.reports rs, s') ∧
      s'.Mirrors (m.adopt (rs.map (·.2))) ∧ s'.records = s.records := by
  induction hrs generalizing s m with
  | nil => exact ⟨s, rfl, by rw [List.map_nil, MemoryStore.adopt_nil]; exact hm, rfl⟩
  | @cons v r vs rs hr hrest ih =>
    obtain ⟨hnew, hrestIds⟩ := List.nodup_cons.mp hids
    obtain ⟨hid, htype, hdirection, _, hcreated⟩ := hkeeps hr
    obtain ⟨t, ht, hv⟩ := hread v List.mem_cons_self
    obtain ⟨context, _, rfl⟩ := Task.reread_eq_ok hv
    have hfound : m.find? t.id = some t := MemoryStore.find?_of_mem hd ht
    have hsaved := mirrors_save hm hd hfound ⟨hid, htype, hdirection, hcreated⟩
    have hread' : ∀ w ∈ vs, ∃ t' ∈ (m.put (r.2.withContext t.context)).tasks,
        t'.reread = .ok w := by
      intro w hw
      obtain ⟨t', ht', hw'⟩ := hread w (List.mem_cons_of_mem _ hw)
      refine ⟨t', List.mem_map.mpr ⟨t', ht', if_neg fun he => hnew ?_⟩, hw'⟩
      obtain ⟨_, _, rfl⟩ := Task.reread_eq_ok hw'
      exact List.mem_map.mpr ⟨_, hw, he.trans hid⟩
    obtain ⟨s', hs', hm', hrec⟩ := ih hsaved
      (by rw [MemoryStore.Distinct, MemoryStore.ids_put]; exact hd) hrestIds hread'
    refine ⟨s', ?_, ?_, hrec⟩
    · rw [sweepTasks, hr]
      dsimp only
      rw [hs']
      show Except.ok ((t.id, r.1) :: MemoryStore.reports rs, s') = _
      rw [show t.id = r.2.id from hid.symm]
      rfl
    · rw [List.map_cons, MemoryStore.adopt_cons hd (t := t) (by rw [hid]; exact hfound) ?_]
      · exact hm'
      · have hids : rs.map (fun r => r.2.id) = vs.map (·.id) :=
          map_eq_of_forall₂ hrest fun _ _ h => (hkeeps h).1
        rw [List.map_map, Function.comp_def, hids, hid]
        exact hnew

theorem exists_changes {vs : List Task} (h : ∀ v ∈ vs, ∃ r, change v = .ok r) :
    ∃ rs, List.Forall₂ (fun v r => change v = .ok r) vs rs := by
  induction vs with
  | nil => exact ⟨[], .nil⟩
  | cons v vs ih =>
    obtain ⟨r, hr⟩ := h v List.mem_cons_self
    obtain ⟨rs, hrs⟩ := ih fun w hw => h w (List.mem_cons_of_mem _ hw)
    exact ⟨r :: rs, .cons hr hrs⟩

/-- A sweep over the tasks of some statuses that are older than a cutoff, and how a store in memory
selects them. It never refuses. -/
structure Sweeps (statuses : List TaskStatus) (cutoff : Instant) (select : Task → Bool)
    (change : Task → Except Fault (α × Task)) : Prop where
  keeps : ∀ {t a u}, change t = .ok (a, u) → u.id = t.id ∧ u.taskType = t.taskType ∧
    u.direction = t.direction ∧ u.context = t.context ∧ u.createdAt = t.createdAt
  rows : ∀ t, (statuses.any (fun x => (Row.ofTask t).status.same (.text x.name)) &&
    (Row.ofTask t).updatedAt.before (.integer cutoff)) = select t
  blind : ∀ t context, select (t.withContext context) = select t
  accepts : ∀ t, select t = true → ∃ r, change t = .ok r

theorem sweeps_reclaim (cutoff now : Instant) :
    Sweeps [.claimed, .running] cutoff (MemoryStore.isStale cutoff) (·.reclaim now) where
  keeps h := (Task.reclaim_eq_ok h).keeps
  rows t := by
    simp only [List.any_cons, List.any_nil, Bool.or_false, Row.same_status, MemoryStore.isStale]
    cases t.status <;> rfl
  blind _ _ := rfl
  accepts t h := by
    simp only [MemoryStore.isStale, Bool.and_eq_true] at h
    cases hs : t.status with
    | claimed => exact ⟨_, by simp only [Task.reclaim, hs]; rfl⟩
    | running =>
      simp only [Task.reclaim, hs]
      split <;> exact ⟨_, rfl⟩
    | _ => rw [hs] at h; exact nomatch h.1

theorem sweeps_expire (cutoff now : Instant) :
    Sweeps [.needsDecision] cutoff (MemoryStore.isOverdue cutoff)
      (fun t => (t.expire now).map fun u => ((), u)) where
  keeps {t a u} h := by
    obtain ⟨v, hv, h⟩ := Task.map_eq_ok.mp h
    cases h
    exact (Task.expire_moves hv).keeps
  rows t := by
    simp only [List.any_cons, List.any_nil, Bool.or_false, Row.same_status, MemoryStore.isOverdue]
    cases t.status <;> rfl
  blind _ _ := rfl
  accepts t h := by
    simp only [MemoryStore.isOverdue, Bool.and_eq_true, decide_eq_true_eq] at h
    exact ⟨_, by rw [Task.expire, if_pos h.1]; rfl⟩

/-- A sweep either fails on a row, or changes the tasks that it selects as they are read. -/
theorem sweep_mirrored {statuses : List TaskStatus} {cutoff : Instant} {select : Task → Bool}
    (hsweep : Sweeps statuses cutoff select change) (hm : s.Mirrors m) (hd : m.Distinct) :
    (∃ e, (byAge (m.tasks.filter select)).mapM Task.reread = .error e ∧
      s.sweep statuses cutoff change = (.error (.row e), s)) ∨
    ∃ vs rs s', (byAge (m.tasks.filter select)).mapM Task.reread = .ok vs ∧
      List.Forall₂ (fun v r => change v = .ok r) vs rs ∧
      s.sweep statuses cutoff change = (.ok (MemoryStore.reports rs), s') ∧
      s'.Mirrors (m.adopt (rs.map (·.2))) ∧ s'.records = s.records := by
  unfold sweep
  rw [filter_mirrored hm hsweep.rows]
  dsimp only
  rw [oldestFirst_mirrored, readAll_mirrored]
  cases hread : (byAge (m.tasks.filter select)).mapM Task.reread with
  | error e => exact .inl ⟨e, rfl, rfl⟩
  | ok vs =>
    refine .inr ?_
    have hvs := forall₂_of_mapM hread
    have hmem : ∀ v ∈ vs, ∃ t ∈ m.tasks, t.reread = .ok v ∧ select v = true := by
      intro v hv
      obtain ⟨t, ht, hr⟩ := exists_of_forall₂ hvs hv
      obtain ⟨htasks, hs⟩ := List.mem_filter.mp (List.mem_mergeSort.mp ht)
      obtain ⟨context, _, rfl⟩ := Task.reread_eq_ok hr
      exact ⟨t, htasks, hr, (hsweep.blind t context).trans hs⟩
    have hids : (vs.map (·.id)).Nodup := by
      rw [map_eq_of_forall₂ (f := (·.id)) hvs fun _ _ h => Task.reread_id h]
      exact ((List.mergeSort_perm _ _).map _).nodup_iff.mpr
        ((List.filter_sublist.map _).nodup hd)
    obtain ⟨rs, hrs⟩ := exists_changes fun v hv => hsweep.accepts v (hmem v hv).choose_spec.2.2
    obtain ⟨s', hs', hm', hrec⟩ := sweepTasks_mirrored hsweep.keeps hm hd hids
      (fun v hv => by obtain ⟨t, ht, hr, _⟩ := hmem v hv; exact ⟨t, ht, hr⟩) hrs
    refine ⟨vs, rs, s', rfl, hrs, ?_, hm', hrec⟩
    dsimp only
    rw [hs']

end Sweep

/-! ## Records -/

theorem rows_putRecord (s : TableStore) (key text : String) :
    (s.putRecord key text).rows = s.rows := by
  unfold putRecord
  split <;> rfl

theorem rows_heartbeatMarker (s : TableStore) (beat : Instant) :
    (s.heartbeatMarker beat).2.rows = s.rows := by
  unfold heartbeatMarker
  split
  · rfl
  · rfl
  · exact rows_putRecord _ _ _

end TableStore

end TaskPipeline
