import TaskPipeline.Pipeline
import TaskPipeline.Proofs.Store.Query
import TaskPipeline.Proofs.Store.Sorting

/-!
# The line of claimable tasks

What a store answers about claimable tasks are tasks that it keeps (`mem_claimable`), and they are a
beginning of the line in which the tasks wait: by creation time, and those of one time in the order
of their creation (`claimable_line`). The first in that line is the `Foremost`.
-/

namespace TaskPipeline

/-- The task is of one of these types. No types mean all types. -/
def Task.isOf (types : List TaskType) (t : Task) : Bool :=
  types.isEmpty || types.contains t.taskType

/-- The task may be claimed now by one who takes these types. -/
def Task.isOpenTo (types : List TaskType) (now : Instant) (t : Task) : Bool :=
  t.isClaimable now && t.isOf types

/-! ## Rows -/

namespace Row.Reads

variable {r : Row} {t : Task}

theorem taskType_eq (h : r.Reads t) : r.taskType = (ofTask t).taskType := by
  obtain ⟨name, hname, htype⟩ := h.taskType
  rw [readText_eq_ok.mp hname]
  unfold readName at htype
  split at htype
  · next x hx =>
    cases htype
    have hx : t.taskType.name = name := by simpa [TaskType.ofName?] using List.find?_some hx
    exact congrArg Cell.text hx.symm
  · cases htype

/-- A readable row is selected for a claim as its task is. -/
theorem isOpenTo (h : r.Reads t) (types : List TaskType) (now : Instant) :
    (TableStore.mayBeClaimed now r &&
      (types.isEmpty || types.any fun x => r.taskType.same (.text x.name))) =
      t.isOpenTo types now := by
  rw [h.mayBeClaimed, h.taskType_eq, Task.isOpenTo, Task.isOf]
  simp only [same_taskType, List.contains_eq_any_beq, beq_eq_decide, eq_comm]

end Row.Reads

namespace Store

variable {s : Store} {types : List TaskType} {limit : UInt64} {now : Instant} {ts : List Task}
  {t : Task}

/-! ## Stores of any content -/

theorem mem_claimable_memory {m : MemoryStore} (hk : (memory m).Keyed)
    (h : (memory m).claimable types limit now = .ok ts) (ht : t ∈ ts) :
    (memory m).task? t.id = some t ∧ t.isOpenTo types now = true := by
  cases h
  obtain ⟨hmem, hopen⟩ := List.mem_filter.mp (List.mem_mergeSort.mp (List.mem_of_mem_take ht))
  rw [task?_memory]
  exact ⟨MemoryStore.find?_of_mem hk hmem, hopen⟩

theorem mem_claimable_table {s : TableStore} (hk : (table s).Keyed)
    (h : (table s).claimable types limit now = .ok ts) (ht : t ∈ ts) :
    (table s).task? t.id = some t ∧ t.isOpenTo types now = true := by
  simp only [claimable, TableStore.claimable, TableStore.readAll] at h
  split at h
  · next vs hvs =>
    cases h
    obtain ⟨r, hr, hread⟩ := exists_of_forall₂ (TableStore.forall₂_of_mapM hvs) ht
    obtain ⟨hmem, hopen⟩ := List.mem_filter.mp
      (List.mem_mergeSort.mp ((TableStore.slice_sublist _ _ _).subset hr))
    have hreads := Row.toTask_eq_ok.mp hread
    exact ⟨TableStore.task?_of_mem hk hmem hreads, (hreads.isOpenTo types now).symm.trans hopen⟩
  · cases h

/-- **Claimable tasks are kept by the store and open to the one who asks.** -/
theorem mem_claimable (hk : s.Keyed) (h : s.claimable types limit now = .ok ts) (ht : t ∈ ts) :
    s.task? t.id = some t ∧ t.isOpenTo types now = true := by
  cases s with
  | memory m => exact mem_claimable_memory hk h ht
  | table s => exact mem_claimable_table hk h ht

end Store

/-! ## The line -/

namespace TableStore

/-- Of the rows that can be read those are selected whose tasks are. -/
theorem readable_filter {rows : List Row} {p : Row → Bool} {select : Task → Bool}
    (hp : ∀ {r t}, r.Reads t → p r = select t) :
    (rows.filter p).filterMap Row.task? = (rows.filterMap Row.task?).filter select := by
  rw [List.filterMap_filter, List.filter_filterMap]
  refine List.filterMap_congr fun r _ => ?_
  cases hr : r.task? with
  | none => simp
  | some t =>
    rw [hp (Row.task?_eq_some.mp hr)]
    cases hs : select t <;> simp [Option.filter, hs]

/-- Rows that are all read are tasks. -/
theorem readAll_eq_ok {rows : List Row} {ts : List Task} (h : readAll rows = .ok ts) :
    rows.filterMap Row.task? = ts ∧ rows.length = ts.length := by
  unfold readAll at h
  split at h
  · next us hus =>
    cases h
    have hread : List.Forall₂ Row.Reads rows ts :=
      (forall₂_of_mapM hus).imp fun _ _ => Row.toTask_eq_ok.mp
    exact ⟨filterMap_tasks hread, hread.length_eq⟩
  · cases h

/-- A limit leaves out an end. -/
theorem exists_slice {α : Type} (limit : Int64) (xs : List α) :
    ∃ left, xs = slice limit 0 xs ++ left := by
  simp only [slice, show (0 : Int64).toInt.toNat = 0 from rfl, List.drop_zero]
  split
  · exact ⟨[], (List.append_nil xs).symm⟩
  · exact ⟨_, (List.take_append_drop _ xs).symm⟩

/-- Only a limit of zero leaves out everything. -/
theorem slice_eq_nil {α : Type} {limit : UInt64} (hlimit : limit ≠ 0) {xs : List α}
    (h : slice limit.toInt64 0 xs = []) : xs = [] := by
  simp only [slice, show (0 : Int64).toInt.toNat = 0 from rfl, List.drop_zero] at h
  split at h
  · exact h
  · next hpos =>
    have htoInt := toInt_toInt64 limit
    split at htoInt
    · rcases List.take_eq_nil_iff.mp h with hzero | hnil
      · rw [htoInt, Int.toNat_natCast] at hzero
        exact absurd (UInt64.toNat_inj.mp hzero) hlimit
      · exact hnil
    · have hlt : limit.toNat < 2 * capacity := limit.toNat_lt
      rw [Int64.lt_iff_toInt_lt, Int64.toInt_zero, htoInt] at hpos
      omega

end TableStore

namespace Store

open Pipeline (readable)
open TableStore (byAge)

variable {s : Store}

/-- **A store answers with a beginning of the line of claimable tasks**, and not with an empty one
unless the line or the limit is. -/
theorem claimable_line {types : List TaskType} {limit : UInt64} {now : Instant} {ts : List Task}
    (h : s.claimable types limit now = .ok ts) :
    ∃ left, byAge ((readable s).filter (·.isOpenTo types now)) = ts ++ left ∧
      (limit ≠ 0 → ts = [] → left = []) := by
  cases s with
  | memory m =>
    generalize hline : byAge ((readable (memory m)).filter (·.isOpenTo types now)) = line
    have hts : ts = line.take limit.toNat := by
      rw [← hline]
      exact (Except.ok.inj h).symm
    refine ⟨line.drop limit.toNat, by rw [hts, List.take_append_drop], ?_⟩
    intro hlimit hnil
    rw [hts] at hnil
    rcases List.take_eq_nil_iff.mp hnil with hzero | hnil
    · exact absurd (UInt64.toNat_inj.mp hzero) hlimit
    · rw [hnil, List.drop_nil]
  | table s =>
    obtain ⟨hread, hlength⟩ := TableStore.readAll_eq_ok h
    have hline : byAge ((readable (table s)).filter (·.isOpenTo types now)) = _ :=
      congrArg byAge (TableStore.readable_filter fun hr => hr.isOpenTo types now).symm
    rw [← TableStore.readable_oldestFirst] at hline
    obtain ⟨rest, hrest⟩ := TableStore.exists_slice limit.toInt64
      (TableStore.oldestFirst (s.rows.filter fun r => TableStore.mayBeClaimed now r &&
        (types.isEmpty || types.any fun x => r.taskType.same (.text x.name))))
    refine ⟨rest.filterMap Row.task?, ?_, ?_⟩
    · rw [hline, hrest, List.filterMap_append, hread]
    · rintro hlimit rfl
      have hempty := TableStore.slice_eq_nil hlimit (List.length_eq_zero_iff.mp hlength)
      rw [hempty] at hrest
      rw [(List.append_eq_nil_iff.mp hrest.symm).2, List.filterMap_nil]

/-- A limit that the store does not exceed shows the whole line. -/
theorem claimable_whole {types : List TaskType} {limit : UInt64} {now : Instant} {ts : List Task}
    (h : s.claimable types limit now = .ok ts) (hsize : s.size ≤ limit.toNat) :
    ts = byAge ((readable s).filter (·.isOpenTo types now)) := by
  cases s with
  | memory m =>
    have hts : ts = (byAge ((readable (memory m)).filter (·.isOpenTo types now))).take
      limit.toNat := (Except.ok.inj h).symm
    rw [hts, List.take_of_length_le]
    rw [TableStore.byAge, List.length_mergeSort]
    exact Nat.le_trans (List.length_filter_le _ _) hsize
  | table s =>
    obtain ⟨hread, -⟩ := TableStore.readAll_eq_ok h
    rw [TableStore.slice_all, TableStore.readable_oldestFirst] at hread
    · rw [← hread]
      exact congrArg byAge (TableStore.readable_filter fun hr => hr.isOpenTo types now)
    · rw [TableStore.oldestFirst, List.length_mergeSort]
      exact Nat.le_trans (List.length_filter_le _ _) hsize

/-- A store that can be read answers what is claimable. -/
theorem exists_claimable (h : s.Readable) (types : List TaskType) (limit : UInt64)
    (now : Instant) : ∃ ts, s.claimable types limit now = .ok ts := by
  cases s with
  | memory m => exact ⟨_, rfl⟩
  | table s =>
    obtain ⟨ts, hts⟩ := TableStore.exists_tasks fun r hr =>
      h r (List.mem_of_mem_filter (List.mem_mergeSort.mp
        ((TableStore.slice_sublist limit.toInt64 0 (TableStore.oldestFirst
          (s.rows.filter fun r => TableStore.mayBeClaimed now r &&
            (types.isEmpty || types.any fun x => r.taskType.same (.text x.name))))).subset hr)))
    exact ⟨ts, TableStore.readAll_tasks hts⟩

end Store

/-- The first of the tasks with a property, by creation time and then by the order of creation. -/
def Task.Foremost (p : Task → Bool) (ts : List Task) (t : Task) : Prop :=
  ∃ before after, ts = before ++ t :: after ∧ p t = true ∧
    (∀ u ∈ before, p u = true → t.createdAt < u.createdAt) ∧
    ∀ u ∈ after, p u = true → t.createdAt ≤ u.createdAt

namespace Task

open TableStore (byAge)

variable {p : Task → Bool} {ts : List Task} {t : Task} {rest : List Task}

/-- Who stands first in the line is the foremost. -/
theorem foremost_of_byAge (h : byAge (ts.filter p) = t :: rest) : Foremost p ts t := by
  induction ts generalizing rest with
  | nil => simp [byAge] at h
  | cons u ts ih =>
    cases hu : p u with
    | false =>
      rw [List.filter_cons_of_neg (by rw [hu]; exact Bool.false_ne_true)] at h
      obtain ⟨before, after, rfl, ht, hbefore, hafter⟩ := ih h
      refine ⟨u :: before, after, rfl, ht, ?_, hafter⟩
      intro v hv hpv
      rcases List.mem_cons.mp hv with rfl | hv
      · cases hu.symm.trans hpv
      · exact hbefore v hv hpv
    | true =>
      rw [List.filter_cons_of_pos hu] at h
      obtain ⟨older, others, hsorted, hrest, holder, hothers⟩ :=
        TableStore.exists_byAge_cons u (ts.filter p)
      rw [hsorted] at h
      cases older with
      | nil =>
        obtain ⟨rfl, rfl⟩ := List.cons.inj h
        refine ⟨[], ts, rfl, hu, by simp, ?_⟩
        intro v hv hpv
        have hmem : v ∈ byAge (ts.filter p) :=
          List.mem_mergeSort.mpr (List.mem_filter.mpr ⟨hv, hpv⟩)
        rw [hrest] at hmem
        exact of_decide_eq_true (hothers v hmem)
      | cons v older =>
        obtain ⟨rfl, rfl⟩ := List.cons.inj h
        obtain ⟨before, after, rfl, ht, hbefore, hafter⟩ := ih hrest
        refine ⟨u :: before, after, rfl, ht, ?_, hafter⟩
        intro w hw hpw
        rcases List.mem_cons.mp hw with rfl | hw
        · exact Int64.not_le.mp (of_decide_eq_false (holder v List.mem_cons_self))
        · exact hbefore w hw hpw

/-- Nobody stands in an empty line. -/
theorem none_of_byAge (h : byAge (ts.filter p) = []) : ∀ t ∈ ts, p t = false := by
  intro t ht
  by_contra hp
  have hmem : t ∈ byAge (ts.filter p) :=
    List.mem_mergeSort.mpr (List.mem_filter.mpr ⟨ht, by simpa using hp⟩)
  rw [h] at hmem
  cases hmem

end Task

end TaskPipeline
