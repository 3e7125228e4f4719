import TaskPipeline.Http.Api
import TaskPipeline.Proofs.Store.Line
import TaskPipeline.Proofs.Store.Replace

/-!
# Pages of tasks

A store whose tasks were created in the order of their creation times answers a listing with a page
of the line of matching tasks, the newest first (`list_page`), and a reader who turns the pages up
to an empty one has seen that line, each task once (`turns_flatten`, `exists_turns`). In a table an
offset counts only as far as 63 bits go: one beyond that counts as none.
-/

namespace TaskPipeline

open Pipeline (readable)

namespace Store

/-- What the pages of a store rely on: ids that are not repeated, rows that can be read, and
creation times in the order of creation. -/
structure Orderly (s : Store) : Prop where
  keyed : s.Keyed
  readable : s.Readable
  ordered : (Pipeline.readable s).Pairwise fun t u => t.createdAt ≤ u.createdAt

/-- The tasks that a filter selects, the newest first. -/
def newest (s : Store) (f : TaskFilter) : List Task := ((readable s).filter f.selects).reverse

/-- The least offset that the store does not count any more. -/
def reach : Store → Nat
  | memory _ => UInt64.size
  | table _ => TableStore.capacity

theorem reach_pos (s : Store) : 0 < s.reach := by
  cases s with
  | memory m => exact show 0 < UInt64.size by decide
  | table s => exact show 0 < TableStore.capacity by decide

theorem reach_le (s : Store) : s.reach ≤ UInt64.size := by
  cases s with
  | memory m => exact Nat.le_refl _
  | table s => exact show TableStore.capacity ≤ UInt64.size by decide

end Store

theorem TaskFilter.pageSize_pos (f : TaskFilter) : 0 < f.pageSize := Nat.le_max_left 1 _

theorem TaskFilter.pageSize_lt (f : TaskFilter) : f.pageSize < TableStore.capacity := by
  unfold pageSize maxPageSize TableStore.capacity
  omega

/-- The rows of tasks of a sound origin make an orderly store. -/
theorem Store.orderly_rows {ts : List Task} (h : Sound (ts.map Task.origin)) :
    (Store.table { rows := ts.map Row.ofTask }).Orderly := by
  have hreread := Task.reread_sound h
  have hreadable : readable (.table { rows := ts.map Row.ofTask }) = ts :=
    TableStore.filterMap_tasks (TableStore.reads_rows hreread)
  have hdistinct : (ts.map (·.id)).Nodup := MemoryStore.distinct_sound (m := { tasks := ts }) h
  refine ⟨TableStore.keyed_rows hdistinct [], TableStore.readable_rows hreread [], ?_⟩
  rw [hreadable]
  exact (List.pairwise_map (f := Task.origin)).mp h.ordered

/-! ## One page -/

namespace TableStore

/-- A readable row is selected as its task is. -/
theorem selects_reads (f : TaskFilter) {r : Row} {t : Task} (h : r.Reads t) :
    (f.status.all (fun x => r.status.same (.text x.name)) &&
      f.taskType.all fun x => r.taskType.same (.text x.name)) = f.selects t := by
  rw [h.status_eq, h.taskType_eq]
  simp only [Row.same_status, Row.same_taskType, TaskFilter.selects]

theorem byAge_ordered {ts : List Task} (h : ts.Pairwise fun t u => t.createdAt ≤ u.createdAt) :
    byAge ts = ts :=
  List.mergeSort_of_pairwise (h.imp fun hle => decide_eq_true hle)

end TableStore

namespace Store

variable {s : Store} {f : TaskFilter}

/-- **A listing answers with the page at the offset**, as far as the store counts offsets. -/
theorem list_page (h : s.Orderly) (hoffset : f.offset.toNat < s.reach) :
    s.list f = .ok (((s.newest f).drop f.offset.toNat).take f.pageSize) := by
  cases s with
  | memory m =>
    show m.list f = _
    rw [MemoryStore.list, List.filter_reverse]
    rfl
  | table s =>
    show s.list f = _
    unfold TableStore.list
    dsimp only
    generalize hp : (fun r : Row => f.status.all (fun x => r.status.same (.text x.name)) &&
      f.taskType.all fun x => r.taskType.same (.text x.name)) = p
    have hselects : ∀ {r t}, r.Reads t → p r = f.selects t := fun hr => by
      rw [← hp]; exact TableStore.selects_reads f hr
    have hreads : ∀ r ∈ TableStore.newestFirst (s.rows.filter p), ∃ t, r.Reads t := fun r hr =>
      h.readable r (List.mem_of_mem_filter (List.mem_mergeSort.mp (List.mem_reverse.mp hr)))
    obtain ⟨ts, hts⟩ := TableStore.exists_tasks hreads
    have hordered : TableStore.byAge ((s.rows.filterMap Row.task?).filter f.selects) = _ :=
      TableStore.byAge_ordered (h.ordered.sublist List.filter_sublist)
    have hline : ts = (table s).newest f := by
      rw [← TableStore.filterMap_tasks hts, TableStore.newestFirst, List.filterMap_reverse,
        TableStore.readable_oldestFirst, TableStore.readable_filter hselects,
        hordered]
      rfl
    rw [TableStore.slice_page f.pageSize_lt hoffset, ← hline]
    exact TableStore.readAll_tasks
      (List.forall₂_take _ (List.forall₂_drop _ hts))

/-- An offset beyond what a table counts is taken for none. -/
theorem list_beyond {s : TableStore} (h : TableStore.capacity ≤ f.offset.toNat) :
    (table s).list f = (table s).list { f with offset := 0 } := by
  have hneg : f.offset.toInt64.toInt.toNat = 0 := by
    have hlt : f.offset.toNat < 2 * TableStore.capacity := f.offset.toNat_lt
    rw [TableStore.toInt_toInt64, if_neg (Nat.not_lt.mpr h)]
    omega
  have hslice : ∀ rows : List Row, TableStore.slice (Int64.ofNat f.pageSize) f.offset.toInt64 rows =
      TableStore.slice (Int64.ofNat f.pageSize) (0 : UInt64).toInt64 rows := by
    intro rows
    simp only [TableStore.slice, hneg]
    rfl
  exact congrArg TableStore.readAll (hslice _)

/-- Past the end of the line there is nothing. -/
theorem list_past (h : s.Orderly) (hoffset : f.offset.toNat < s.reach)
    (hpast : (s.newest f).length ≤ f.offset.toNat) : s.list f = .ok [] := by
  rw [list_page h hoffset, List.drop_of_length_le hpast, List.take_nil]

/-- The line holds each task that the filter selects, once. -/
theorem mem_newest (h : s.Keyed) {t : Task} :
    t ∈ s.newest f ↔ s.task? t.id = some t ∧ f.selects t = true := by
  rw [newest, List.mem_reverse, List.mem_filter, h.mem_readable]

theorem nodup_newest (h : s.Keyed) : ((s.newest f).map (·.id)).Nodup := by
  rw [newest, List.map_reverse, List.nodup_reverse]
  exact (List.filter_sublist.map _).nodup h.nodup_readable

theorem newest_first (h : s.Orderly) :
    (s.newest f).Pairwise fun t u => u.createdAt ≤ t.createdAt :=
  List.pairwise_reverse.mpr (h.ordered.sublist List.filter_sublist)

end Store

/-! ## Turning the pages -/

/-- The filter for the page at an offset. -/
def TaskFilter.at (f : TaskFilter) (offset : Nat) : TaskFilter :=
  { f with offset := UInt64.ofNat offset }

namespace Store

/-- A reader asks for one page after the other, from an offset on, until a page is empty. -/
inductive Turns (s : Store) (f : TaskFilter) : Nat → List (List Task) → Prop where
  | last {offset : Nat} : s.list (f.at offset) = .ok [] → Turns s f offset []
  | next {offset : Nat} {page : List Task} {pages : List (List Task)} :
      s.list (f.at offset) = .ok page → page ≠ [] → Turns s f (offset + f.pageSize) pages →
      Turns s f offset (page :: pages)

variable {s : Store} {f : TaskFilter} {offset : Nat}

theorem list_at (h : s.Orderly) (hoffset : offset < s.reach) :
    s.list (f.at offset) = .ok (((s.newest f).drop offset).take f.pageSize) := by
  have hat : (f.at offset).offset.toNat = offset :=
    UInt64.toNat_ofNat_of_lt' (Nat.lt_of_lt_of_le hoffset s.reach_le)
  have hpage := list_page (f := f.at offset) h (by rw [hat]; exact hoffset)
  rw [hat] at hpage
  exact hpage

theorem lt_of_page {α : Type} {xs : List α} {offset size : Nat}
    (h : (xs.drop offset).take size ≠ []) : offset < xs.length := by
  by_contra hle
  rw [List.drop_of_length_le (Nat.not_lt.mp hle), List.take_nil] at h
  exact h rfl

variable (h : s.Orderly) (hsize : (s.newest f).length + f.pageSize ≤ s.reach)
include h hsize

/-- **What a reader has turned over is the line from where he started.** -/
theorem turns_flatten {pages : List (List Task)} (hoffset : offset < s.reach)
    (hturns : s.Turns f offset pages) : pages.flatten = (s.newest f).drop offset := by
  induction hturns with
  | last hlast =>
    rw [list_at h hoffset] at hlast
    rcases List.take_eq_nil_iff.mp (Except.ok.inj hlast) with hzero | hnil
    · exact absurd hzero (Nat.ne_of_gt f.pageSize_pos)
    · exact hnil.symm
  | next hpage hne _ ih =>
    rw [list_at h hoffset] at hpage
    cases hpage
    have hlt := lt_of_page hne
    rw [List.flatten_cons, ih (by omega), ← List.drop_drop, List.take_append_drop]

/-- **And he comes to an empty page.** -/
theorem exists_turns : ∀ n offset, (s.newest f).length - offset ≤ n → offset < s.reach →
    ∃ pages, s.Turns f offset pages := by
  intro n
  induction n with
  | zero =>
    intro offset hleft hoffset
    refine ⟨[], .last ?_⟩
    rw [list_at h hoffset, List.drop_of_length_le (by omega), List.take_nil]
  | succ n ih =>
    intro offset hleft hoffset
    by_cases hpage : ((s.newest f).drop offset).take f.pageSize = []
    · exact ⟨[], .last (by rw [list_at h hoffset, hpage])⟩
    · have hlt := lt_of_page hpage
      have hpos := f.pageSize_pos
      obtain ⟨pages, hpages⟩ := ih (offset + f.pageSize) (by omega) (by omega)
      exact ⟨_, .next (list_at h hoffset) hpage hpages⟩

end Store

/-! ## Over HTTP -/

namespace Http

/-- A request for a page of tasks. -/
def Request.AsksTasks (r : Request) (f : TaskFilter) : Prop :=
  r.method = "GET" ∧ Route.ofPath? r.target.path = some .tasks ∧
    readFilter r.target.query = .ok f

/-- The response to it. -/
def pageResponse (f : TaskFilter) (page : List Task) : Response := ⟨200, .json (pageJson f page)⟩

theorem handle_page {s : Store} {r : Request} {f : TaskFilter} {page : List Task}
    (hr : r.AsksTasks f) (hlist : s.list f = .ok page) (a : Api) (fresh : TaskId)
    (now : Instant) : a.handle s r fresh now = leave (pageResponse f page) s := by
  obtain ⟨hmethod, hpath, hfilter⟩ := hr
  simp only [Api.handle, hpath, hmethod, Api.get, hfilter, hlist]
  rfl

end Http

/-- **Paging loses and repeats nothing**, as far as a store counts offsets: a listing answers with
what is left of the line of matching tasks behind the offset, up to the size of a page, and with
nothing behind its end; the line goes from the newest task to the oldest and holds each matching
task once; turning the pages up to an empty one comes to an end and gives the whole line; and a
request for tasks is answered with the page that the store gives. -/
theorem pages_complete {s : Store} (h : s.Orderly) :
    (∀ f : TaskFilter, f.offset.toNat < s.reach →
      s.list f = .ok (((s.newest f).drop f.offset.toNat).take f.pageSize) ∧
      ((s.newest f).length ≤ f.offset.toNat → s.list f = .ok []) ∧
      ∀ (r : Http.Request) (a : Http.Api) (fresh : TaskId) (now : Instant), r.AsksTasks f →
        a.handle s r fresh now =
          Http.leave
            (Http.pageResponse f (((s.newest f).drop f.offset.toNat).take f.pageSize)) s) ∧
    ∀ f : TaskFilter,
      ((s.newest f).map (·.id)).Nodup ∧
      (s.newest f).Pairwise (fun t u => u.createdAt ≤ t.createdAt) ∧
      (∀ t, t ∈ s.newest f ↔ s.task? t.id = some t ∧ f.selects t = true) ∧
      ((s.newest f).length + f.pageSize ≤ s.reach →
        (∃ pages, s.Turns f 0 pages) ∧
          ∀ pages, s.Turns f 0 pages → pages.flatten = s.newest f) := by
  refine ⟨fun f hoffset => ?_, fun f => ?_⟩
  · have hpage := Store.list_page h hoffset
    exact ⟨hpage, Store.list_past h hoffset,
      fun _ a fresh now hr => Http.handle_page hr hpage a fresh now⟩
  · refine ⟨Store.nodup_newest h.keyed, Store.newest_first h,
      fun _ => Store.mem_newest h.keyed, fun hsize => ⟨?_, fun pages hturns => ?_⟩⟩
    · exact Store.exists_turns h hsize _ 0 (Nat.le_refl _) s.reach_pos
    · exact Store.turns_flatten h hsize s.reach_pos hturns

/-- A pending task that was created at an instant. -/
def taskAt (id : TaskId) (now : Instant) : Task := Task.create id ⟨.impl, "build", none, none⟩ 3 now

theorem sound_taskAt : Sound ([taskAt "a" 0, taskAt "b" 5].map Task.origin) where
  distinct := by decide
  ordered := by decide
  legible o ho c hc := by
    obtain rfl | rfl : o = (taskAt "a" 0).origin ∨ o = (taskAt "b" 5).origin := by simpa using ho
    · cases hc
    · cases hc

/-- The second page of one task each. -/
theorem pages_complete_pair :
    let s := Store.table { rows := [taskAt "a" 0, taskAt "b" 5].map Row.ofTask }
    s.Orderly ∧ s.list { limit := some 1, offset := 1 } = .ok [taskAt "a" 0] :=
  have h := Store.orderly_rows sound_taskAt
  ⟨h, ((pages_complete h).1 { limit := some 1, offset := 1 } (by decide)).1⟩

/-- **A table takes the greater half of the offsets for none**: it begins anew with the newest tasks
where it should have nothing left. -/
theorem pages_begin_anew :
    let s := Store.table { rows := [taskAt "a" 0, taskAt "b" 5].map Row.ofTask }
    let f : TaskFilter := { offset := 0x8000000000000000 }
    s.Orderly ∧ (s.newest f).length ≤ f.offset.toNat ∧
      s.list f = .ok [taskAt "b" 5, taskAt "a" 0] := by
  intro s f
  have h : s.Orderly := Store.orderly_rows sound_taskAt
  have hline : s.newest { f with offset := 0 } = [taskAt "b" 5, taskAt "a" 0] := by rfl
  refine ⟨h, ?_, ?_⟩
  · show (s.newest { f with offset := 0 }).length ≤ f.offset.toNat
    rw [hline]
    decide
  · rw [Store.list_beyond (by decide), Store.list_page h (by decide), hline]
    rfl

end TaskPipeline
