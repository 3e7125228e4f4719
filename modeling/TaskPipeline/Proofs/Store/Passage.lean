import TaskPipeline.Proofs.Store.Sweep

/-!
# What a call does to one task, whatever else is stored

A sweep may fail on a row that has nothing to do with a task, and a claim may make a row readable
that was not. `Store.Passes` lists what any call can do to what is read under an id, in a store of
any content: it stays, it is a task that was just made or claimed, or it makes one move
(`passes_perform`).
-/

namespace TaskPipeline

/-- The call may carry out the operation on the task with the id. -/
inductive Call.Reaches (id : TaskId) : Call → Operation → Prop where
  | asks {c : Call} {op : Operation} : c.asks = some (id, op) → Reaches id c op
  | reclaims (cutoff : Instant) : Reaches id (.reclaimStale cutoff) .reclaim
  | expires (cutoff : Instant) : Reaches id (.expireDecisions cutoff) .expire

namespace Store

/-- What a call can do to what is read under an id. -/
inductive Passes (now : Instant) (id : TaskId) (c : Call) : Option Task → Option Task → Prop where
  | stays (v : Option Task) : Passes now id c v v
  | made {u : Task} : u.status = .pending → Passes now id c none (some u)
  /-- What could not be read before is read in the hands of the worker. -/
  | appears {worker : WorkerId} {u : Task} : c = .claim id worker → u.status = .claimed →
      u.claimedBy = some worker → Passes now id c none (some u)
  | moves {op : Operation} {t u : Task} : c.Reaches id op → t.Moves now op u →
      Passes now id c (some t) (some u)

variable {s : Store} {now : Instant} {id : TaskId} {c : Call}

theorem Same.passes {s' : Store} (h : s.Same s') : Passes now id c (s.task? id) (s'.task? id) := by
  rw [h.task?]
  exact .stays _

/-- A new task is pending, if it can be read at all. -/
theorem status_create (hnew : id ∉ s.ids) {new : NewTask} {asked : UInt32} {u : Task}
    (hu : (s.create id new asked now).2.task? id = some u) : u.status = .pending := by
  cases s with
  | memory m =>
    have hnone : m.find? id = none := List.find?_eq_none.mpr fun t ht he =>
      hnew (List.mem_map.mpr ⟨t, ht, by simpa using he⟩)
    have hfound : (m.create id new asked now).2.find? id = some u := by
      rw [← hu, ← task?_memory]
      rfl
    rw [MemoryStore.find?_create, hnone, if_pos rfl] at hfound
    cases hfound
    rfl
  | table t =>
    obtain ⟨r, hr, hreads, _⟩ := TableStore.exists_row hu
    obtain ⟨hmem, hid⟩ := TableStore.row?_eq_some hr
    rcases List.mem_append.mp hmem with hmem | hmem
    · exact absurd (List.mem_filterMap.mpr ⟨r, hmem, Row.key?_eq_some.mpr hid⟩) hnew
    · rw [List.mem_singleton.mp hmem] at hreads
      have hreread := Row.toTask_eq_ok.mpr hreads
      rw [Row.toTask_ofTask] at hreread
      obtain ⟨_, _, rfl⟩ := Task.reread_eq_ok hreread
      rfl

theorem passes_create {i : TaskId} (hnew : i ∉ s.ids) (new : NewTask) (asked : UInt32) :
    Passes now id c (s.task? id) ((s.create i new asked now).2.task? id) := by
  by_cases hid : id = i
  · subst hid
    have hnone : s.task? id = none := by
      cases ht : s.task? id with
      | none => rfl
      | some t => exact absurd (mem_ids_of_task? ht) hnew
    rw [hnone]
    cases hu : (s.create id new asked now).2.task? id with
    | none => exact .stays none
    | some u => exact .made (status_create hnew hu)
  · rw [task?_create hid]
    exact .stays _

theorem passes_claim (i : TaskId) (worker : WorkerId) :
    Passes now id (.claim i worker) (s.task? id) ((s.claim i worker now).2.task? id) := by
  rcases claim_cases s i worker now with ⟨hsame, _⟩ | ⟨u, _, hwins⟩
  · exact hsame.passes
  · by_cases hid : id = u.id
    · have hi : i = id := hwins.id_eq.symm.trans hid.symm
      subst hi
      rw [show (s.claim i worker now).2.task? i = some u from hid ▸ hwins.puts.self]
      cases hv : s.task? i with
      | none => exact .appears rfl hwins.status hwins.claimedBy
      | some v =>
        obtain ⟨hc, rfl⟩ := hwins.before v hv
        exact .moves (.asks rfl) (.claim worker hc)
    · rw [hwins.puts.other hid]
      exact .stays _

theorem passes_asked {i : TaskId} {op : Operation} (hasks : c.asks = some (i, op))
    (hop : ∀ worker, op ≠ .claim worker) :
    Passes now id c (s.task? id) ((s.perform now c).2.task? id) := by
  rcases (asked_perform s hasks hop).same_or_puts with hsame | ⟨t, u, ht, hmoves, hu, hputs⟩
  · rw [hsame]
    exact .stays _
  · by_cases hid : id = u.id
    · have hi : i = id := hu.symm.trans hid.symm
      subst hi
      rw [ht, show (s.perform now c).2.task? i = some u from hid ▸ hputs.self]
      exact .moves (.asks hasks) hmoves
    · rw [hputs.other hid]
      exact .stays _

theorem Reaps.passes {α : Type} {select : Task → Bool}
    {change : Task → Except Fault (α × Task)} {reports : List (TaskId × α)} {s' : Store}
    (h : s.Reaps select change reports s') {op : Operation} (hreaches : c.Reaches id op)
    (hchange : ∀ {t a u}, change t = .ok (a, u) → t.Moves now op u) :
    Passes now id c (s.task? id) (s'.task? id) := by
  have hreaped := h.each id
  generalize s.task? id = v, s'.task? id = w at hreaped
  cases hreaped with
  | taken _ hc _ => exact .moves hreaches (hchange hc)
  | spared => exact .stays _

/-- **Every call does to what is read under an id one of the things that `Passes` lists**, as long
as it makes no task under an id that is in use. -/
theorem passes_perform (hk : s.Keyed) (c : Call)
    (hnew : ∀ i new asked, c = .create i new asked → i ∉ s.ids) (now : Instant) (id : TaskId) :
    Passes now id c (s.task? id) ((s.perform now c).2.task? id) := by
  by_cases hquery : c.isQuery = true
  · exact (same_perform s hquery now).passes
  cases c with
  | create i new asked => exact passes_create (hnew i new asked rfl) new asked
  | claim i worker => exact passes_claim i worker
  | start | touch | recordOutcome | resolve | reopen | cancel => exact passes_asked rfl (by simp)
  | reclaimStale cutoff =>
    rcases reclaimStale_cases hk cutoff now with ⟨e, hstep⟩ | ⟨reports, s', hstep, hreaps⟩
    · simp only [perform, answered, hstep]
      exact .stays _
    · simp only [perform, answered, hstep]
      exact hreaps.passes (.reclaims cutoff) Task.reclaim_eq_ok
  | expireDecisions cutoff =>
    rcases expireDecisions_cases hk cutoff now with ⟨e, hstep⟩ | ⟨reports, s', hstep, hreaps⟩
    · simp only [perform, answered, hstep]
      exact .stays _
    · simp only [perform, answered, hstep]
      refine hreaps.passes (.expires cutoff) fun h => ?_
      obtain ⟨u, hu, hpair⟩ := Task.map_eq_ok.mp h
      cases hpair
      exact Task.expire_moves hu
  | _ => exact absurd rfl hquery

end Store

end TaskPipeline
