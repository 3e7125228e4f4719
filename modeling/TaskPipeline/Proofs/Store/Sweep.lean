import TaskPipeline.Proofs.Store.Content

/-!
# Sweeps over stores of any content

A sweep fails and changes nothing, or it changes every task that it selects, once, and reports on
exactly these (`reclaimStale_cases`, `expireDecisions_cases`). A table fails on the first selected
row that it cannot read; a row that it does not select need not be readable.
-/

namespace TaskPipeline

section

variable {α : Type} {select : Task → Bool} {change : Task → Except Fault (α × Task)}

/-- What a sweep does to the task that is read under an id. -/
inductive Reaped (select : Task → Bool) (change : Task → Except Fault (α × Task))
    (reports : List (TaskId × α)) (id : TaskId) : Option Task → Option Task → Prop where
  | taken {t u : Task} {a : α} : select t = true → change t = .ok (a, u) → (id, a) ∈ reports →
      Reaped select change reports id (some t) (some u)
  | spared {v : Option Task} : id ∉ reports.map (·.1) → (∀ t, v = some t → select t = false) →
      Reaped select change reports id v v

/-- What a sweep over a store reports and leaves. -/
structure Store.Reaps (s : Store) (select : Task → Bool)
    (change : Task → Except Fault (α × Task)) (reports : List (TaskId × α))
    (s' : Store) : Prop where
  ids : s'.ids = s.ids
  nodup : (reports.map (·.1)).Nodup
  each : ∀ id, Reaped select change reports id (s.task? id) (s'.task? id)

/-- A report is about a task that was selected. -/
theorem Reaped.of_mem {reports : List (TaskId × α)} {id : TaskId} {v w : Option Task}
    (h : Reaped select change reports id v w) (hid : id ∈ reports.map (·.1)) :
    ∃ t u a, v = some t ∧ w = some u ∧ select t = true ∧ change t = .ok (a, u) ∧
      (id, a) ∈ reports := by
  cases h with
  | taken hs hc hmem => exact ⟨_, _, _, rfl, rfl, hs, hc, hmem⟩
  | spared hnone => exact absurd hid hnone

/-- One more report about another task. -/
theorem Reaped.cons {reports : List (TaskId × α)} {id : TaskId} {v w : Option Task}
    (h : Reaped select change reports id v w) {i : TaskId} (hi : id ≠ i) (a : α) :
    Reaped select change ((i, a) :: reports) id v w := by
  cases h with
  | taken hs hc hmem => exact .taken hs hc (List.mem_cons_of_mem _ hmem)
  | spared hnone hselect =>
    refine .spared ?_ hselect
    rw [List.map_cons, List.mem_cons, not_or]
    exact ⟨hi, hnone⟩

namespace Store.Reaps

variable {s s' : Store} {reports : List (TaskId × α)} {id : TaskId} {t : Task} {a : α}

theorem taken (h : s.Reaps select change reports s') (ht : s.task? id = some t)
    (hs : select t = true) :
    ∃ a u, change t = .ok (a, u) ∧ (id, a) ∈ reports ∧ s'.task? id = some u := by
  have heach := h.each id
  rw [ht] at heach
  generalize hw : s'.task? id = w at heach
  cases heach with
  | taken _ hc hmem => exact ⟨_, _, hc, hmem, rfl⟩
  | spared _ hnone => cases hs.symm.trans (hnone t rfl)

theorem spared (h : s.Reaps select change reports s')
    (hs : ∀ t, s.task? id = some t → select t = false) : s'.task? id = s.task? id := by
  have heach := h.each id
  generalize s'.task? id = w, hv : s.task? id = v at heach
  cases heach with
  | taken hselect _ _ => cases hselect.symm.trans (hs _ hv)
  | spared _ _ => rfl

theorem unreported (h : s.Reaps select change reports s') (hid : id ∉ reports.map (·.1)) :
    s'.task? id = s.task? id := by
  have heach := h.each id
  generalize s'.task? id = w, s.task? id = v at heach
  cases heach with
  | taken _ _ hmem => exact absurd (List.mem_map_of_mem hmem) hid
  | spared _ _ => rfl

/-- The reports are about the tasks that are selected, and each says what its change says. -/
theorem mem_reports (h : s.Reaps select change reports s') :
    (id, a) ∈ reports ↔
      ∃ t u, s.task? id = some t ∧ select t = true ∧ change t = .ok (a, u) := by
  constructor
  · intro hmem
    obtain ⟨t, u, b, ht, _, hs, hc, hb⟩ := (h.each id).of_mem (List.mem_map_of_mem hmem)
    cases List.inj_on_of_nodup_map h.nodup hmem hb rfl
    exact ⟨t, u, ht, hs, hc⟩
  · rintro ⟨t, u, ht, hs, hc⟩
    obtain ⟨b, v, hb, hmem, _⟩ := h.taken ht hs
    cases hc.symm.trans hb
    exact hmem

/-- What no task has that is left alone, and no task gets that is changed, no task has afterwards. -/
theorem unselected (h : s.Reaps select change reports s') {p : Task → Bool}
    (hold : ∀ id t, s.task? id = some t → select t = false → p t = false)
    (hnew : ∀ t a u, select t = true → change t = .ok (a, u) → p u = false) :
    ∀ id t, s'.task? id = some t → p t = false := by
  intro id t ht
  have heach := h.each id
  rw [ht] at heach
  generalize hv : s.task? id = v at heach
  cases heach with
  | taken hs hc _ => exact hnew _ _ _ hs hc
  | spared _ hnone => exact hold id t hv (hnone t rfl)

/-- Where nothing is selected nothing is reported. -/
theorem eq_nil (h : s.Reaps select change reports s')
    (hs : ∀ id t, s.task? id = some t → select t = false) : reports = [] := by
  refine List.eq_nil_iff_forall_not_mem.mpr fun ⟨id, a⟩ hmem => ?_
  obtain ⟨t, _, ht, hselect, _⟩ := h.mem_reports.mp hmem
  cases hselect.symm.trans (hs id t ht)

end Store.Reaps

/-! ## In memory -/

namespace MemoryStore

theorem sweep_cons_taken {t u : Task} {a : α} (hs : select t = true)
    (hc : change t = .ok (a, u)) (ts : List Task) :
    sweep select change (t :: ts) =
      ((t.id, a) :: (sweep select change ts).1, u :: (sweep select change ts).2) := by
  simp only [sweep, if_pos hs, hc]

theorem sweep_cons_spared {t : Task} (hs : select t = false) (ts : List Task) :
    sweep select change (t :: ts) =
      ((sweep select change ts).1, t :: (sweep select change ts).2) := by
  simp only [sweep, hs, Bool.false_eq_true, if_false]

section Sweep

variable (haccepts : ∀ t, select t = true → ∃ r, change t = .ok r)
  (hkeeps : ∀ {t a u}, change t = .ok (a, u) → u.id = t.id)
include haccepts hkeeps

theorem ids_sweep (ts : List Task) :
    (sweep select change ts).2.map (·.id) = ts.map (·.id) ∧
      ((sweep select change ts).1.map (·.1)).Sublist (ts.map (·.id)) := by
  induction ts with
  | nil => exact ⟨rfl, .slnil⟩
  | cons t ts ih =>
    cases hs : select t with
    | true =>
      obtain ⟨⟨a, u⟩, hc⟩ := haccepts t hs
      rw [sweep_cons_taken hs hc]
      simp only [List.map_cons, hkeeps hc, ih.1, true_and]
      exact ih.2.cons_cons _
    | false =>
      rw [sweep_cons_spared hs]
      simp only [List.map_cons, ih.1, true_and]
      exact ih.2.cons _

theorem reaped_sweep {ts : List Task} (hd : (ts.map (·.id)).Nodup) (id : TaskId) :
    Reaped select change (sweep select change ts).1 id (ts.find? (·.id == id))
      ((sweep select change ts).2.find? (·.id == id)) := by
  induction ts with
  | nil => exact .spared (by simp [sweep]) (by simp)
  | cons t ts ih =>
    obtain ⟨hnew, hd⟩ := List.nodup_cons.mp hd
    obtain ⟨hids, hreports⟩ := ids_sweep haccepts hkeeps ts
    by_cases hid : t.id = id
    · -- None of the other tasks has this id.
      have hnone : id ∉ (sweep select change ts).1.map (·.1) := by
        intro h
        exact hnew (by simpa only [hid] using hreports.subset h)
      rw [List.find?_cons_of_pos (by simpa using hid)]
      cases hs : select t with
      | true =>
        obtain ⟨⟨a, u⟩, hc⟩ := haccepts t hs
        rw [sweep_cons_taken hs hc,
          List.find?_cons_of_pos (by simpa using (hkeeps hc).trans hid)]
        exact .taken hs hc (by rw [hid]; exact List.mem_cons_self)
      | false =>
        rw [sweep_cons_spared hs, List.find?_cons_of_pos (by simpa using hid)]
        exact .spared hnone (by rintro v ⟨⟩; exact hs)
    · rw [List.find?_cons_of_neg (by simpa using hid)]
      cases hs : select t with
      | true =>
        obtain ⟨⟨a, u⟩, hc⟩ := haccepts t hs
        rw [sweep_cons_taken hs hc,
          List.find?_cons_of_neg (by simpa using (hkeeps hc).symm ▸ hid)]
        exact (ih hd).cons (Ne.symm hid) a
      | false =>
        rw [sweep_cons_spared hs, List.find?_cons_of_neg (by simpa using hid)]
        exact ih hd

/-- A sweep in memory never fails. -/
theorem reaps_sweep {m : MemoryStore} (hk : (Store.memory m).Keyed) :
    (Store.memory m).Reaps select change (sweep select change m.tasks).1
      (.memory { m with tasks := (sweep select change m.tasks).2 }) where
  ids := (ids_sweep haccepts hkeeps m.tasks).1
  nodup := (ids_sweep haccepts hkeeps m.tasks).2.nodup hk
  each id := by
    rw [Store.task?_memory, Store.task?_memory]
    exact reaped_sweep haccepts hkeeps hk id

end Sweep

end MemoryStore

/-! ## In a table -/

namespace TableStore

/-- Different rows have different ids. -/
theorem nodup_of_reads {rows : List Row} {ts : List Task}
    (hts : List.Forall₂ (fun r t => r.toTask = .ok t) rows ts)
    (hd : (rows.filterMap Row.key?).Nodup) : (ts.map (·.id)).Nodup := by
  have hids : rows.filterMap Row.key? = ts.map (·.id) := by
    clear hd
    induction hts with
    | nil => rfl
    | cons hr _ ih =>
      rw [List.filterMap_cons_some (Row.toTask_eq_ok.mp hr).key?, ih, List.map_cons]
  rw [← hids]
  exact hd

theorem find?_of_key? {rows : List Row} (hd : (rows.filterMap Row.key?).Nodup) {r : Row}
    {id : TaskId} (hr : r ∈ rows) (hid : r.key? = some id) :
    rows.find? (fun r => r.id.same (.text id)) = some r := by
  induction rows with
  | nil => cases hr
  | cons r₀ rows ih =>
    by_cases h₀ : r₀.key? = some id
    · have hsame : r₀.id.same (.text id) = true := Cell.same_text.mpr (Row.key?_eq_some.mp h₀)
      rw [List.find?_cons, hsame]
      rw [List.filterMap_cons_some h₀] at hd
      rcases List.mem_cons.mp hr with rfl | hr
      · rfl
      · exact absurd (List.mem_filterMap.mpr ⟨r, hr, hid⟩) (List.nodup_cons.mp hd).1
    · have hne : r₀.id.same (.text id) = false := by
        rw [Bool.eq_false_iff]
        exact fun h => h₀ (Row.key?_eq_some.mpr (Cell.same_text.mp h))
      rw [List.find?_cons, hne]
      rcases List.mem_cons.mp hr with rfl | hr
      · exact absurd hid h₀
      · exact ih (((List.sublist_cons_self _ _).filterMap _).nodup hd) hr

/-- In a keyed table each row that can be read is found under its id. -/
theorem task?_of_mem {s : TableStore} (hk : (Store.table s).Keyed) {r : Row} {t : Task}
    (hr : r ∈ s.rows) (ht : r.Reads t) : (Store.table s).task? t.id = some t := by
  have hrow : s.row? t.id = some r := find?_of_key? hk hr ht.key?
  rw [task?_of_row? hrow, Row.toTask_eq_ok.mpr ht]
  rfl

/-- Tasks that were read are changed and written back one after the other. -/
theorem reaped_sweepTasks {ts : List Task} {s s' : TableStore} {reports : List (TaskId × α)}
    (hkeeps : ∀ {t a u}, change t = .ok (a, u) → u.id = t.id ∧ u.taskType = t.taskType ∧
      u.direction = t.direction ∧ u.context = t.context ∧ u.createdAt = t.createdAt)
    (hd : (ts.map (·.id)).Nodup) (hread : ∀ t ∈ ts, (Store.table s).task? t.id = some t)
    (h : sweepTasks change ts s = .ok (reports, s')) :
    (Store.table s').ids = (Store.table s).ids ∧ reports.map (·.1) = ts.map (·.id) ∧
    (∀ t ∈ ts, ∃ a u, change t = .ok (a, u) ∧ (t.id, a) ∈ reports ∧
      (Store.table s').task? t.id = some u) ∧
    ∀ i, i ∉ ts.map (·.id) → (Store.table s').task? i = (Store.table s).task? i := by
  induction ts generalizing s reports with
  | nil => cases h; exact ⟨rfl, rfl, by simp, fun _ _ => rfl⟩
  | cons t ts ih =>
    obtain ⟨hnew, hd⟩ := List.nodup_cons.mp hd
    rw [sweepTasks] at h
    cases hc : change t with
    | error e => rw [hc] at h; cases h
    | ok r =>
      obtain ⟨a, u⟩ := r
      rw [hc] at h
      obtain ⟨⟨rest, s₁⟩, hrest, h⟩ := Task.bind_eq_ok.mp h
      cases h
      have hputs := puts_save (hread t List.mem_cons_self) (hkeeps hc)
      have hother : ∀ i, i ≠ t.id →
          (Store.table (s.save u)).task? i = (Store.table s).task? i := fun i hi =>
        hputs.other (by rw [(hkeeps hc).1]; exact hi)
      have hread' : ∀ v ∈ ts, (Store.table (s.save u)).task? v.id = some v := by
        intro v hv
        have hne : v.id ≠ t.id := fun he => hnew (List.mem_map.mpr ⟨v, hv, he⟩)
        rw [hother v.id hne]
        exact hread v (List.mem_cons_of_mem _ hv)
      obtain ⟨hids, hreports, htaken, hspared⟩ := ih hd hread' hrest
      refine ⟨hids.trans hputs.ids, by rw [List.map_cons, List.map_cons, hreports], ?_, ?_⟩
      · intro v hv
        rcases List.mem_cons.mp hv with rfl | hv
        · refine ⟨a, u, hc, List.mem_cons_self, ?_⟩
          rw [hspared v.id hnew, ← (hkeeps hc).1]
          exact hputs.self
        · obtain ⟨b, w, hw, hmem, hfound⟩ := htaken v hv
          exact ⟨b, w, hw, List.mem_cons_of_mem _ hmem, hfound⟩
      · intro i hi
        rw [List.map_cons, List.mem_cons, not_or] at hi
        rw [hspared i hi.2, hother i hi.1]

/-- A readable row is selected as its task is. -/
theorem Sweeps.reads {statuses : List TaskStatus} {cutoff : Instant}
    (h : Sweeps statuses cutoff select change) {r : Row} {t : Task} (hr : r.Reads t) :
    (statuses.any (fun x => r.status.same (.text x.name)) && r.updatedAt.before (.integer cutoff)) =
      select t := by
  rw [hr.status_eq, hr.updatedAt_eq]
  exact h.rows t

theorem reaps_sweep {s : TableStore} (hk : (Store.table s).Keyed) {statuses : List TaskStatus}
    {cutoff : Instant} (hsweep : Sweeps statuses cutoff select change) :
    (∃ e, s.sweep statuses cutoff change = (.error e, s)) ∨
    ∃ reports s', s.sweep statuses cutoff change = (.ok reports, s') ∧
      (Store.table s).Reaps select change reports (.table s') := by
  unfold sweep
  dsimp only
  generalize hp : (fun r : Row => statuses.any (fun x => r.status.same (.text x.name)) &&
    r.updatedAt.before (.integer cutoff)) = p
  have hselect : ∀ {r t}, r.Reads t → p r = select t := fun hr => by
    rw [← hp]; exact hsweep.reads hr
  cases hread : (oldestFirst (s.rows.filter p)).mapM Row.toTask with
  | error e => exact .inl ⟨.row e, by simp only [readAll, hread]⟩
  | ok ts =>
    have hts := forall₂_of_mapM hread
    simp only [readAll, hread]
    cases hswept : sweepTasks change ts s with
    | error e => exact .inl ⟨e, rfl⟩
    | ok swept =>
      obtain ⟨reports, s'⟩ := swept
      have hperm : (oldestFirst (s.rows.filter p)).Perm (s.rows.filter p) :=
        List.mergeSort_perm _ _
      have hd : (ts.map (·.id)).Nodup := nodup_of_reads hts
        ((hperm.filterMap _).nodup_iff.mpr ((List.filter_sublist.filterMap _).nodup hk))
      have hmem : ∀ t ∈ ts, (Store.table s).task? t.id = some t ∧ select t = true := by
        intro t ht
        obtain ⟨r, hr, hrt⟩ := exists_of_forall₂ hts ht
        obtain ⟨hrow, hpr⟩ := List.mem_filter.mp (hperm.mem_iff.mp hr)
        have hreads := Row.toTask_eq_ok.mp hrt
        exact ⟨task?_of_mem hk hrow hreads, (hselect hreads).symm.trans hpr⟩
      obtain ⟨hids, hreports, htaken, hspared⟩ :=
        reaped_sweepTasks hsweep.keeps hd (fun t ht => (hmem t ht).1) hswept
      refine .inr ⟨reports, s', rfl, hids, by rw [hreports]; exact hd, ?_⟩
      intro id
      by_cases hid : id ∈ ts.map (·.id)
      · obtain ⟨t, ht, rfl⟩ := List.mem_map.mp hid
        obtain ⟨a, u, hc, hreport, hfound⟩ := htaken t ht
        rw [(hmem t ht).1, hfound]
        exact .taken (hmem t ht).2 hc hreport
      · rw [hspared id hid]
        refine .spared (by rw [hreports]; exact hid) ?_
        intro t ht
        -- A selected task would be among those that were read.
        by_contra hs
        obtain ⟨r, hr, hreads, rfl⟩ := exists_row ht
        have hpr : p r = true := (hselect hreads).trans (by simpa using hs)
        have hin : r ∈ oldestFirst (s.rows.filter p) :=
          hperm.mem_iff.mpr (List.mem_filter.mpr ⟨(row?_eq_some hr).1, hpr⟩)
        obtain ⟨v, hv, hrv⟩ := exists_of_forall₂ hts.flip hin
        cases (Row.toTask_eq_ok.mpr hreads).symm.trans hrv
        exact hid (List.mem_map_of_mem hv)

end TableStore

end

/-! ## The two sweeps -/

namespace Store

/-- **A reclaim fails and changes nothing, or takes exactly the stale tasks.** -/
theorem reclaimStale_cases {s : Store} (hk : s.Keyed) (cutoff now : Instant) :
    (∃ e, s.reclaimStale cutoff now = (.error e, s)) ∨
    ∃ reports s', s.reclaimStale cutoff now = (.ok reports, s') ∧
      s.Reaps (MemoryStore.isStale cutoff) (·.reclaim now) reports s' := by
  have hsweep := TableStore.sweeps_reclaim cutoff now
  cases s with
  | memory m =>
    exact .inr ⟨_, _, rfl, MemoryStore.reaps_sweep hsweep.accepts (fun h => (hsweep.keeps h).1) hk⟩
  | table s =>
    rcases TableStore.reaps_sweep hk hsweep with ⟨e, hstep⟩ | ⟨reports, s', hstep, hreaps⟩
    · exact .inl ⟨e, by simp only [reclaimStale, lift, TableStore.reclaimStale, hstep]⟩
    · exact .inr ⟨reports, _, by simp only [reclaimStale, lift, TableStore.reclaimStale, hstep],
        hreaps⟩

/-- **An expiry fails and changes nothing, or fails exactly the overdue tasks.** -/
theorem expireDecisions_cases {s : Store} (hk : s.Keyed) (cutoff now : Instant) :
    (∃ e, s.expireDecisions cutoff now = (.error e, s)) ∨
    ∃ reports s', s.expireDecisions cutoff now = (.ok (reports.map (·.1)), s') ∧
      s.Reaps (MemoryStore.isOverdue cutoff) (fun t => (t.expire now).map fun u => ((), u))
        reports s' := by
  have hsweep := TableStore.sweeps_expire cutoff now
  cases s with
  | memory m =>
    exact .inr ⟨_, _, rfl, MemoryStore.reaps_sweep hsweep.accepts (fun h => (hsweep.keeps h).1) hk⟩
  | table s =>
    rcases TableStore.reaps_sweep hk hsweep with ⟨e, hstep⟩ | ⟨reports, s', hstep, hreaps⟩
    · exact .inl ⟨e, by simp only [expireDecisions, lift, TableStore.expireDecisions, hstep]; rfl⟩
    · exact .inr ⟨reports, _,
        by simp only [expireDecisions, lift, TableStore.expireDecisions, hstep]; rfl, hreaps⟩

end Store

end TaskPipeline
