import Mathlib.Algebra.BigOperators.Group.List.Basic
import Mathlib.Algebra.GroupWithZero.Nat
import TaskPipeline.Pipeline
import TaskPipeline.Proofs.Store.Frame

/-!
# Calls that replace a task

What can be read of a store is what is found under its ids. A call on one task that the task
accepts puts another in its place and leaves everything else as it was (`Store.Replaces`), so that a
sum over the tasks changes by what these two count for (`sum_replaces`).
-/

namespace TaskPipeline

/-- What answers with the task that it leaves. -/
theorem Task.reply_map {x : Except Fault Task} {q : Reply} {u : Task}
    (h : x.map (fun v => (Reply.task v, v)) = .ok (q, u)) : q = .task u := by
  obtain ⟨v, _, hv⟩ := map_eq_ok.mp h
  cases hv
  rfl

namespace Store

variable {s : Store} {now : Instant} {t : Task}

section Readable

open Pipeline (readable)

/-- What can be read of a store is what is found under its ids. -/
theorem Keyed.readable_eq (h : s.Keyed) : readable s = s.ids.filterMap s.task? := by
  cases s with
  | memory m =>
    show m.tasks = (m.tasks.map (·.id)).filterMap (memory m).task?
    rw [List.filterMap_map, task?_memory]
    have hfound : ∀ t ∈ m.tasks, (m.find? ∘ (·.id)) t = some t := fun t ht =>
      MemoryStore.find?_of_mem h ht
    rw [List.filterMap_congr hfound, List.filterMap_some]
  | table s =>
    show s.rows.filterMap (fun r => r.toTask.toOption) =
      (s.rows.filterMap Row.key?).filterMap (table s).task?
    rw [List.filterMap_filterMap]
    refine List.filterMap_congr fun r hr => ?_
    cases hkey : r.key? with
    | some id =>
      rw [Option.bind_some,
        TableStore.task?_of_row? (TableStore.find?_of_key? h hr hkey : s.row? id = some r)]
    | none =>
      cases hread : r.toTask with
      | error e => rfl
      | ok t => cases hkey.symm.trans (Row.toTask_eq_ok.mp hread).key?

theorem Keyed.mem_readable (h : s.Keyed) : t ∈ readable s ↔ s.task? t.id = some t := by
  rw [h.readable_eq, List.mem_filterMap]
  constructor
  · rintro ⟨id, _, hid⟩
    rw [id_of_task? hid]
    exact hid
  · exact fun ht => ⟨t.id, mem_ids_of_task? ht, ht⟩

theorem Keyed.nodup_readable (h : s.Keyed) : ((readable s).map (·.id)).Nodup := by
  rw [h.readable_eq, List.map_filterMap]
  refine List.Nodup.filterMap (fun i j id hi hj => ?_) h
  obtain ⟨t, ht, rfl⟩ := Option.map_eq_some_iff.mp hi
  obtain ⟨u, hu, hid⟩ := Option.map_eq_some_iff.mp hj
  rw [← id_of_task? ht, ← id_of_task? hu, hid]

end Readable

/-- One task takes the place of what was read under its id, and all else stays, to the last cell. -/
structure Replaces (s : Store) (u : Task) (s' : Store) : Prop where
  puts : s.Puts u s'
  without : s'.without u.id = s.without u.id

/-- A sum over what can be read changes by what the task that takes the place counts for. -/
theorem Keyed.sum_replaces {s' : Store} {u : Task} (h : s.Keyed) (hs : s.Replaces u s')
    (ht : s.task? u.id = some t) (f : Task → Nat) :
    ((Pipeline.readable s').map f).sum + f t = ((Pipeline.readable s).map f).sum + f u := by
  have hsum : ∀ {r : Store}, r.Keyed → ((Pipeline.readable r).map f).sum =
      (r.ids.map fun id => ((r.task? id).map f).getD 0).sum := by
    intro r hr
    rw [hr.readable_eq]
    induction r.ids with
    | nil => rfl
    | cons id ids ih =>
      rw [List.map_cons, List.sum_cons, ← ih]
      cases hid : r.task? id with
      | none => rw [List.filterMap_cons_none hid]; simp
      | some v => rw [List.filterMap_cons_some hid]; simp
  have hmem : u.id ∈ s.ids := mem_ids_of_task? ht
  have hrest : (s.ids.erase u.id).map (fun id => ((s'.task? id).map f).getD 0) =
      (s.ids.erase u.id).map fun id => ((s.task? id).map f).getD 0 := by
    refine List.map_congr_left fun id hid => ?_
    rw [hs.puts.other ((List.Nodup.mem_erase_iff h).mp hid).1]
  have hnew := List.sum_map_erase (fun id => ((s'.task? id).map f).getD 0) hmem
  have hold := List.sum_map_erase (fun id => ((s.task? id).map f).getD 0) hmem
  rw [hsum (h.of_ids hs.puts.ids), hsum h, hs.puts.ids, ← hnew, ← hold, hrest, hs.puts.self, ht]
  simp only [Option.map_some, Option.getD_some]
  omega

/-! ## Calls -/

section Calls

variable {id : TaskId} {worker : WorkerId} {op : Operation} {u : Task}

/-- An operation that the task accepts replaces it. A claim is told apart. -/
theorem perform_accepted {c : Call} {q : Reply} (hasks : c.asks = some (id, op))
    (hop : ∀ worker, op ≠ .claim worker) (ht : s.task? id = some t)
    (hc : t.carry op now = .ok (q, u)) :
    ∃ s', s.perform now c = (.ok q, s') ∧ s.Replaces u s' := by
  have hu : u.id = id := (Task.moves_of_carry hc).keeps.1.trans (id_of_task? ht)
  have hframe : (s.perform now c).2.without id = s.without id := without_asks hasks
  have hasked : s.Asked now id op (s.perform now c) := asked_perform s hasks hop
  generalize s.perform now c = step at hframe hasked
  cases hasked with
  | missing _ hf => cases ht.symm.trans hf
  | refused hf he =>
    cases ht.symm.trans hf
    cases hc.symm.trans he
  | @carried _ _ _ s' hf hc' hputs =>
    cases ht.symm.trans hf
    cases hc.symm.trans hc'
    exact ⟨s', rfl, hputs, by rw [hu]; exact hframe⟩

/-- A call that asks an operation of a task, and that answers with the task: it fails and changes
nothing, or the task that is read makes its move. -/
theorem asked_replaces (s : Store) (c : Call) (now : Instant) {op : Operation}
    {step : Answer Task × Store} (hstep : s.perform now c = answered .task step)
    (hasks : c.asks = some (id, op)) (hop : ∀ worker, op ≠ .claim worker)
    (hreply : ∀ {t q u}, Task.carry t op now = .ok (q, u) → q = .task u) :
    (∃ e, step = (.error e, s)) ∨
      ∃ t u s', u.id = id ∧ s.task? id = some t ∧ t.Moves now op u ∧ s.Replaces u s' ∧
        step = (.ok u, s') := by
  have h : s.Asked now id op (answered .task step) := hstep ▸ asked_perform s hasks hop
  rcases h.answered with ⟨e, he, _⟩ | ⟨t, u, a, s', ht, hc, hputs, rfl⟩
  · exact .inl ⟨e, he⟩
  · have hmoves := Task.moves_of_carry hc
    have hid : u.id = id := hmoves.keeps.1.trans (id_of_task? ht)
    cases hreply hc
    have hrest : (s.perform now c).2.without id = s.without id := without_asks hasks
    rw [hstep] at hrest
    subst hid
    exact .inr ⟨t, u, s', rfl, ht, hmoves, ⟨hputs, hrest⟩, rfl⟩

/-- The answer of an operation by itself. -/
theorem answer_of_answered {α : Type} {wrap : α → Reply} (hwrap : Function.Injective wrap)
    {step : Answer α × Store} {a : α} {s' : Store} (h : answered wrap step = (.ok (wrap a), s')) :
    step = (.ok a, s') := by
  obtain ⟨answer, s₁⟩ := step
  obtain ⟨hanswer, rfl⟩ := Prod.mk.inj h
  obtain ⟨b, rfl, hb⟩ := Task.map_eq_ok.mp hanswer
  rw [hwrap hb]

theorem start_accepted (ht : s.task? id = some t) (hu : t.start worker now = .ok u) :
    ∃ s', s.start id worker now = (.ok u, s') ∧ s.Replaces u s' := by
  have hc : t.carry (.start worker) now = .ok (.task u, u) := by rw [Task.carry, hu]; rfl
  obtain ⟨s', hs', hreplaces⟩ := perform_accepted (c := .start id worker) rfl (by simp) ht hc
  exact ⟨s', answer_of_answered (fun _ _ h => Reply.task.inj h) hs', hreplaces⟩

theorem touch_accepted (ht : s.task? id = some t) (hu : t.touch worker now = .ok u) :
    s.Replaces u (s.touch id worker now).2 := by
  have hc : t.carry (.touch worker) now = .ok (.done, u) := by rw [Task.carry, hu]; rfl
  obtain ⟨s', hs', hreplaces⟩ := perform_accepted (c := .touch id worker) rfl (by simp) ht hc
  rw [show (s.touch id worker now).2 = s' from (Prod.mk.inj hs').2]
  exact hreplaces

theorem recordOutcome_accepted {attempt : UInt32} {decision : Decision} {a : Applied}
    (ht : s.task? id = some t) (hu : t.settle attempt decision now = .ok (a, u)) :
    ∃ s', s.recordOutcome id attempt decision now = (.ok (a, u), s') ∧ s.Replaces u s' := by
  have hc : t.carry (.settle attempt decision) now = .ok (.settled a u, u) := by
    rw [Task.carry, hu]; rfl
  obtain ⟨s', hs', hreplaces⟩ :=
    perform_accepted (c := .recordOutcome id attempt decision) rfl (by simp) ht hc
  refine ⟨s', answer_of_answered (fun _ _ h => ?_) hs', hreplaces⟩
  exact Prod.ext (Reply.settled.inj h).1 (Reply.settled.inj h).2

/-- The claim of a task that may be claimed is won. -/
theorem claim_accepted (ht : s.task? id = some t) (hc : t.isClaimable now = true) :
    ∃ s', s.claim id worker now = (.ok (.claimed (t.heldBy worker now)), s') ∧
      s.Replaces (t.heldBy worker now) s' := by
  have hframe : (s.claim id worker now).2.without id = s.without id :=
    without_asks (c := .claim id worker) rfl
  have hwon : (s.claim id worker now).1 = .ok (.claimed (t.heldBy worker now)) := by
    cases s with
    | memory m =>
      rw [task?_memory] at ht
      simp only [claim, lift, MemoryStore.claim, ht, Task.claim_won hc]
    | table s =>
      obtain ⟨r, hr, hreads, _⟩ := TableStore.exists_row ht
      have hmay : TableStore.mayBeClaimed now r = true := by rw [hreads.mayBeClaimed, hc]
      have hload := TableStore.load_claimRow worker hr hmay
      simp only [Row.toTask_eq_ok.mpr (hreads.heldBy worker now)] at hload
      simp only [claim, lift, TableStore.claim, hload, hr, Option.any_some, hmay, if_true]
      rfl
  rcases claim_cases s id worker now with ⟨_, hlost⟩ | ⟨u, hu, hwins⟩
  · exact absurd hwon (hlost _)
  · obtain ⟨-, rfl⟩ := hwins.before t ht
    exact ⟨_, Prod.ext hwon rfl, hwins.puts, by rw [hwins.id_eq]; exact hframe⟩

/-- The claim of a task that may not be claimed changes nothing. -/
theorem claim_refused (hk : s.Keyed) (ht : s.task? id = some t) (hc : t.isClaimable now = false) :
    (s.claim id worker now).2 = s ∧ ∀ u, (s.claim id worker now).1 ≠ .ok (.claimed u) := by
  rcases claim_cases s id worker now with ⟨_, hlost⟩ | ⟨u, _, hwins⟩
  · refine ⟨?_, hlost⟩
    have hq : Reply.declined (s.perform now (.claim id worker)).1 = true := by
      simp only [perform, answered]
      rcases hanswer : (s.claim id worker now).1 with e | v | _
      · rfl
      · exact absurd hanswer (hlost v)
      · rfl
    rcases claim_declined hk hq with hsame | ⟨t', r, e, hs⟩
    · exact hsame
    · -- What can be read is read in the hands of the worker, too.
      obtain ⟨rfl, hr, _, hunread⟩ := hs
      obtain ⟨q, hq, hreads, _⟩ := TableStore.exists_row ht
      cases hr.symm.trans hq
      cases hunread.symm.trans (Row.toTask_eq_ok.mpr (hreads.heldBy worker now))
  · cases hc.symm.trans (hwins.before t ht).1

end Calls

end Store

end TaskPipeline
