import TaskPipeline.Proofs.Store.Sweep

/-!
# What a call leaves alone

A call on one task leaves everything else as it was, down to the last cell, and a call that fails or
says that it changed nothing leaves the whole store as it was: the tasks, the marker and the fatal
issue (`declined_unchanged`). The one exception is a table's claim of a row that cannot be read: the
claim is written before the row is read, and it stays when that fails (`claim_stranded`).
-/

namespace TaskPipeline

/-- The call failed, or it says that it changed nothing. -/
def Reply.declined : Answer Reply → Bool
  | .error _ | .ok (.claim .alreadyClaimed) | .ok (.settled .duplicate _) => true
  | _ => false

/-- The task that a call is about, if it is about one. -/
def Call.about : Call → Option TaskId
  | .create id _ _ => some id
  | c => c.asks.map (·.1)

/-- The row is as it was written for some task, or it cannot be read. -/
def Row.Written (r : Row) : Prop := (∃ t, r = ofTask t) ∨ ∃ e, r.toTask = .error e

namespace Store

/-- Every row was written for some task, or cannot be read. -/
def Written : Store → Prop
  | memory _ => True
  | table s => ∀ r ∈ s.rows, r.Written

/-- All that a store keeps besides the task with an id. -/
def without (s : Store) (id : TaskId) : Store :=
  match s with
  | memory m => memory { m with tasks := m.tasks.filter (·.id ≠ id) }
  | table t => table { t with rows := t.rows.filter fun r => !r.id.same (.text id) }

/-- What a claim runs into that is written and then fails: a row that may be claimed, and that
cannot be read even in the hands of the worker. -/
structure Strands (s : Store) (now : Instant) (id : TaskId) (worker : WorkerId) (t : TableStore)
    (r : Row) (e : ColumnError) : Prop where
  table : s = .table t
  row : t.row? id = some r
  claimable : TableStore.mayBeClaimed now r = true
  unread : (r.heldBy worker now).toTask = .error e

end Store

/-! ## In memory -/

namespace MemoryStore

variable {m : MemoryStore} {id : TaskId} {u : Task}

theorem without_put (hu : u.id = id) :
    (Store.memory (m.put u)).without id = (Store.memory m).without id := by
  subst hu
  simp only [Store.without, put, Store.memory.injEq, mk.injEq, and_true, ne_eq, decide_not]
  induction m.tasks with
  | nil => rfl
  | cons t ts ih => by_cases ht : t.id = u.id <;> simp [ht, ih]

/-- A task that is put in its own place changes nothing. -/
theorem put_self (hd : m.Distinct) (hf : m.find? id = some u) : m.put u = m := by
  have hkeep : ∀ t ∈ m.tasks, (if t.id = u.id then u else t) = t := by
    intro t ht
    split
    · next he => exact (eq_of_find? hd hf ht (he.trans (id_of_find? hf))).symm
    · rfl
  rw [put, List.map_congr_left hkeep, List.map_id']

end MemoryStore

/-! ## In a table -/

namespace TableStore

variable {s : TableStore} {id : TaskId} {f : Row → Row}

theorem without_modify (hf : ∀ r, (f r).id = r.id) :
    (Store.table (s.modify id f)).without id = (Store.table s).without id := by
  simp only [Store.without, modify, Store.table.injEq, mk.injEq, and_true]
  induction s.rows with
  | nil => rfl
  | cons r rows ih => by_cases hr : r.id.same (.text id) = true <;> simp [hr, hf, ih]

/-- A change that leaves the row with the id as it is changes nothing. -/
theorem modify_self (hk : (Store.table s).Keyed) (h : ∀ r, s.row? id = some r → f r = r) :
    s.modify id f = s := by
  have hkeep : ∀ r ∈ s.rows, (if r.id.same (.text id) then f r else r) = r := by
    intro r hr
    split
    · next hid => exact h r (find?_of_key? hk hr (Row.key?_eq_some.mpr (Cell.same_text.mp hid)))
    · rfl
  rw [modify, List.map_congr_left hkeep, List.map_id']

/-- A task that is saved as it was read changes nothing in a row that was written for a task. -/
theorem save_self (hk : (Store.table s).Keyed) (hw : (Store.table s).Written) {t : Task}
    (ht : s.load id = .ok t) : s.save t = s := by
  obtain ⟨r, hr, hreads, hid⟩ := exists_row (Store.load_eq_ok.mp ht)
  refine modify_self hk ?_
  intro r' hr'
  rw [hid, hr] at hr'
  cases hr'
  rcases hw r (row?_eq_some hr).1 with ⟨v, rfl⟩ | ⟨e, he⟩
  · have hv : v.reread = .ok t := by rw [← Row.toTask_ofTask]; exact Row.toTask_eq_ok.mpr hreads
    obtain ⟨context, _, rfl⟩ := Task.reread_eq_ok hv
    exact Row.save_ofTask (t := v) (u := v.withContext context) ⟨rfl, rfl, rfl, rfl⟩
  · cases he.symm.trans (Row.toTask_eq_ok.mpr hreads)

/-- After the claim of a row that may be claimed, the row is read in the hands of the worker. -/
theorem load_claimRow {r : Row} (worker : WorkerId) {now : Instant} (hr : s.row? id = some r)
    (hc : mayBeClaimed now r = true) :
    (s.modify id (claimRow worker now)).load id =
      match (r.heldBy worker now).toTask with
      | .ok t => .ok t
      | .error e => .error (.row e) := by
  have hrow : claimRow worker now r = r.heldBy worker now := if_pos hc
  have hheld : (s.modify id (claimRow worker now)).row? id = some (r.heldBy worker now) := by
    rw [row?_modify (Store.claimRow_id worker now), if_pos rfl, hr, Option.map_some, hrow]
  cases htask : (r.heldBy worker now).toTask <;> simp only [load, hheld, htask]

/-- The claim of a row that may not be claimed, or of none, changes nothing. -/
theorem modify_claimRow_self (hk : (Store.table s).Keyed) {worker : WorkerId} {now : Instant}
    (h : ∀ r, s.row? id = some r → mayBeClaimed now r = false) :
    s.modify id (claimRow worker now) = s :=
  modify_self hk fun r hr => by rw [claimRow, h r hr]; rfl

end TableStore

namespace Store

variable {s : Store} {now : Instant} {id : TaskId} {op : Operation} {c : Call}

/-! ## One task -/

/-- What a decided task answers is no refusal, unless it stays as it is. -/
theorem carry_declined {t u : Task} {q : Reply} (hc : t.carry op now = .ok (q, u))
    (hq : Reply.declined (.ok q) = true) : u = t := by
  cases op with
  | settle attempt decision =>
    obtain ⟨⟨a, v⟩, hv, hr⟩ := Task.map_eq_ok.mp hc
    cases hr
    obtain ⟨hmoves, ⟨rfl, hlate⟩ | ⟨rfl, _⟩⟩ := Task.settle_eq_ok hv
    · cases hv.symm.trans (Task.settle_late hlate)
      rfl
    · cases hq
  | _ =>
    obtain ⟨_, _, hr⟩ := Task.map_eq_ok.mp hc
    cases hr
    cases hq

theorem declined_memory {m : MemoryStore} (hk : (memory m).Keyed) (h : c.asks = some (id, op))
    (hq : Reply.declined ((memory m).perform now c).1 = true) :
    ((memory m).perform now c).2 = memory m := by
  rw [MemoryStore.perform_asks m now h] at hq ⊢
  cases hf : m.find? id with
  | none => rw [MemoryStore.asked_missing hf]; rfl
  | some t =>
    cases hc : t.carry op now with
    | error e => rw [MemoryStore.asked_refused hf rfl hc]; rfl
    | ok r =>
      rw [MemoryStore.asked_whole hf rfl hc] at hq ⊢
      cases carry_declined hc hq
      exact congrArg memory (MemoryStore.put_self hk hf)

/-- An operation on one task. A claim is told apart, since a table writes it before it reads the
task. -/
theorem asks_declined (hk : s.Keyed) (hw : s.Written) (h : c.asks = some (id, op))
    (hop : ∀ worker, op ≠ .claim worker) (hq : Reply.declined (s.perform now c).1 = true) :
    (s.perform now c).2 = s := by
  cases s with
  | memory m => exact declined_memory hk h hq
  | table t =>
    have hsaves : t.Saves now id op ((table t).perform now c) := t.saves_perform h hop
    generalize (table t).perform now c = step at hsaves hq
    cases hsaves with
    | unread | refused => rfl
    | saves hload hc =>
      cases carry_declined hc hq
      exact congrArg table (TableStore.save_self hk hw hload)

/-- A call on one task leaves everything else as it was. -/
theorem without_asks (h : c.asks = some (id, op)) :
    (s.perform now c).2.without id = s.without id := by
  cases s with
  | memory m =>
    rw [MemoryStore.perform_asks m now h]
    cases hf : m.find? id with
    | none => rw [MemoryStore.asked_missing hf]; rfl
    | some t =>
      cases hc : t.carry op now with
      | error e => rw [MemoryStore.asked_refused hf rfl hc]; rfl
      | ok r =>
        rw [MemoryStore.asked_whole hf rfl hc]
        exact MemoryStore.without_put
          ((Task.moves_of_carry hc).keeps.1.trans (MemoryStore.id_of_find? hf))
  | table t =>
    by_cases hop : ∃ worker, op = .claim worker
    · obtain ⟨worker, rfl⟩ := hop
      cases c <;> cases h
      exact TableStore.without_modify (claimRow_id worker now)
    · have hsaves : t.Saves now id op ((table t).perform now c) :=
        t.saves_perform h fun worker he => hop ⟨worker, he⟩
      generalize (table t).perform now c = step at hsaves
      cases hsaves with
      | unread | refused => rfl
      | @saves v u q hload hc =>
        have hu : u.id = id :=
          (Task.moves_of_carry hc).keeps.1.trans (id_of_task? (load_eq_ok.mp hload))
        subst hu
        exact TableStore.without_modify fun _ => rfl

/-- A claim that is written stays, even if the row cannot be read. -/
theorem claim_stranded {worker : WorkerId} {t : TableStore} {r : Row} {e : ColumnError}
    (h : s.Strands now id worker t r e) :
    s.perform now (.claim id worker) =
      (.error (.row e), table (t.modify id (TableStore.claimRow worker now))) := by
  obtain ⟨rfl, hr, hc, hunread⟩ := h
  have hload := TableStore.load_claimRow worker hr hc
  simp only [hunread] at hload
  simp only [perform, claim, lift, answered, TableStore.claim, hload]
  rfl

theorem claim_declined {worker : WorkerId} (hk : s.Keyed)
    (hq : Reply.declined (s.perform now (.claim id worker)).1 = true) :
    (s.perform now (.claim id worker)).2 = s ∨ ∃ t r e, s.Strands now id worker t r e := by
  cases s with
  | memory m => exact .inl (declined_memory hk (c := .claim id worker) rfl hq)
  | table t =>
    by_cases hc : ∃ r, t.row? id = some r ∧ TableStore.mayBeClaimed now r = true
    · obtain ⟨r, hr, hc⟩ := hc
      have hload := TableStore.load_claimRow worker hr hc
      cases hread : (r.heldBy worker now).toTask with
      | error e => exact .inr ⟨t, r, e, rfl, hr, hc, hread⟩
      | ok v =>
        -- A claim that can be read is won.
        simp only [hread] at hload
        have hwon : (t.row? id).any (TableStore.mayBeClaimed now) = true := by
          rw [hr, Option.any_some, hc]
        simp only [perform, claim, lift, answered, TableStore.claim, hload, hwon] at hq
        cases hq
    · refine .inl ?_
      show table (t.modify id (TableStore.claimRow worker now)) = table t
      rw [TableStore.modify_claimRow_self hk]
      intro r hr
      exact Bool.eq_false_iff.mpr fun h => hc ⟨r, hr, h⟩

/-! ## Calls on no single task -/

theorem sweep_declined {α : Type} {wrap : α → Reply} {step : Answer α × Store}
    (h : (∃ e, step = (.error e, s)) ∨ ∃ a s', step = (.ok a, s'))
    (hwrap : ∀ a, Reply.declined (.ok (wrap a)) = false)
    (hq : Reply.declined (answered wrap step).1 = true) : (answered wrap step).2 = s := by
  rcases h with ⟨e, rfl⟩ | ⟨a, s', rfl⟩
  · rfl
  · exact nomatch (hwrap a).symm.trans hq

theorem heartbeatMarker_declined (beat : Instant)
    (hq : Reply.declined (s.perform now (.heartbeatMarker beat)).1 = true) :
    (s.perform now (.heartbeatMarker beat)).2 = s := by
  cases s with
  | memory m => cases hq
  | table t =>
    simp only [perform, heartbeatMarker, TableStore.heartbeatMarker] at hq ⊢
    cases hread : t.readMarker with
    | error e => rfl
    | ok marker => rw [hread] at hq; cases marker <;> cases hq

/-! ## Main statement -/

/-- A new task leaves the others as they were. -/
theorem without_create (s : Store) (id : TaskId) (new : NewTask) (maxAttempts : UInt32)
    (now : Instant) : (s.create id new maxAttempts now).2.without id = s.without id := by
  cases s with
  | memory m => simp [create, lift, MemoryStore.create, without, Task.create]
  | table t =>
    simp [create, lift, TableStore.create, TableStore.insert, without, Task.create, Row.ofTask,
      Cell.same]

theorem without_perform (h : c.about = some id) :
    (s.perform now c).2.without id = s.without id := by
  cases c with
  | create => cases h; exact s.without_create _ _ _ _
  | claim | start | touch | recordOutcome | resolve | reopen | cancel =>
    cases h
    exact without_asks rfl
  | _ => cases h

/-- **A call that is declined changes nothing, and a call on one task nothing else.** The exception
is named: the claim, in a table, of a row that cannot be read leaves the row claimed. -/
theorem declined_unchanged (hk : s.Keyed) (hw : s.Written) (now : Instant) (c : Call) :
    (Reply.declined (s.perform now c).1 = true → (s.perform now c).2 = s ∨
      ∃ id worker t r e, c = .claim id worker ∧ s.Strands now id worker t r e ∧
        s.perform now c =
          (.error (.row e), table (t.modify id (TableStore.claimRow worker now)))) ∧
    ∀ id, c.about = some id → (s.perform now c).2.without id = s.without id := by
  refine ⟨fun hq => ?_, fun id hid => without_perform hid⟩
  cases c with
  | claim id worker =>
    rcases claim_declined hk hq with hsame | ⟨t, r, e, hs⟩
    · exact .inl hsame
    · exact .inr ⟨id, worker, t, r, e, rfl, hs, claim_stranded hs⟩
  | start | touch | recordOutcome | resolve | reopen | cancel =>
    exact .inl (asks_declined hk hw rfl (by simp) hq)
  | create => cases s <;> cases hq
  | get | list | snapshot | claimable | readMarker | fatalIssue => exact .inl rfl
  | writeMarker | recordFatal => cases s <;> cases hq
  | heartbeatMarker beat => exact .inl (heartbeatMarker_declined beat hq)
  | reclaimStale cutoff =>
    refine .inl (sweep_declined ?_ (fun _ => rfl) hq)
    exact (reclaimStale_cases hk cutoff now).imp_right fun ⟨_, _, h, _⟩ => ⟨_, _, h⟩
  | expireDecisions cutoff =>
    refine .inl (sweep_declined ?_ (fun _ => rfl) hq)
    exact (expireDecisions_cases hk cutoff now).imp_right fun ⟨_, _, h, _⟩ => ⟨_, _, h⟩

/-- A table with a running task and one that has fallen silent and cannot be read. -/
def spoilt : Store :=
  let running : Task :=
    { Task.create "a" ⟨.impl, "build", none, none⟩ 3 0 with
      status := .running, attemptCount := 1, claimedBy := some "w" }
  table {
    rows := [
      Row.ofTask { running with updatedAt := 150 },
      (Row.ofTask { running with id := "b" }).set .retryReflections (.text "x")]
    records := [(TableStore.markerKey, "x")] }

/-- A sweep stumbles over the second row, an outcome is about another attempt, and neither the
second task nor the marker can be read. -/
theorem declined_unchanged_spoilt :
    spoilt.Keyed ∧ spoilt.Written ∧
      ∀ c ∈ [Call.reclaimStale 100, .recordOutcome "a" 2 (.complete "done"), .cancel "b",
          .heartbeatMarker 200],
        Reply.declined (spoilt.perform 200 c).1 = true ∧ (spoilt.perform 200 c).2 = spoilt := by
  have hk : spoilt.Keyed := by decide
  have hw : spoilt.Written := by
    intro r hr
    rcases List.mem_cons.mp hr with rfl | hr
    · exact .inl ⟨_, rfl⟩
    · cases List.mem_singleton.mp hr
      exact .inr ⟨.badJson 8, rfl⟩
  refine ⟨hk, hw, ?_⟩
  intro c hc
  have hq : Reply.declined (spoilt.perform 200 c).1 = true := by
    revert c
    decide +kernel
  refine ⟨hq, ?_⟩
  rcases (declined_unchanged hk hw 200 c).1 hq with hsame | ⟨_, _, _, _, _, rfl, _⟩
  · exact hsame
  · simp at hc

/-- A row of a kind that no task has. -/
def bogusRow : Row :=
  (Row.ofTask (Task.create "a" ⟨.impl, "build", none, none⟩ 3 0)).set .taskType (.text "bogus")

/-- **A claim that fails can stay.** -/
theorem claim_fails_and_stays :
    let s := table { rows := [bogusRow] }
    s.Keyed ∧ s.Written ∧ Reply.declined (s.perform 5 (.claim "a" "w")).1 = true ∧
      (s.perform 5 (.claim "a" "w")).2 = table { rows := [bogusRow.heldBy "w" 5] } ∧
      (s.perform 5 (.claim "a" "w")).2 ≠ s := by
  have hstays : ((table { rows := [bogusRow] }).perform 5 (.claim "a" "w")).2 =
      table { rows := [bogusRow.heldBy "w" 5] } := rfl
  refine ⟨by decide, ?_, by decide, hstays, ?_⟩
  · intro r hr
    cases List.mem_singleton.mp hr
    exact .inr ⟨.unknownName 1 (.taskType "bogus"), rfl⟩
  · rw [hstays]
    simp [bogusRow, Row.heldBy, Row.ofTask, Row.set, Task.create, TaskStatus.name]

end Store

end TaskPipeline
