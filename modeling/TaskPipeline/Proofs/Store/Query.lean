import TaskPipeline.Proofs.Store.Mirror

/-!
# Queries of a table

A query of a table sorts and cuts its rows and reads what is left. If the tasks of the store that it
mirrors are of a sound origin (`Sound`), they are read back as they are and stand in the order of
their creation, and the query answers as that store does: `get_mirrored`, `list_mirrored`,
`claimable_mirrored`, `snapshot_mirrored`.
-/

namespace TaskPipeline

/-- What a task keeps for life, and what decides where it stands and whether it can be read. -/
structure Origin where
  id : TaskId
  createdAt : Instant
  context : Option Json

def Task.origin (t : Task) : Origin := ⟨t.id, t.createdAt, t.context⟩

/-- What is written of a context is read back as that context. -/
def Row.Legible (context : Option Json) : Prop :=
  ∀ c, context = some c → Row.freeForm? c.toText = some c

/-- Origins with ids of their own, in the order of time, whose contexts are read back. -/
structure Sound (origins : List Origin) : Prop where
  distinct : (origins.map (·.id)).Nodup
  ordered : origins.Pairwise fun o p => o.createdAt ≤ p.createdAt
  legible : ∀ o ∈ origins, Row.Legible o.context

theorem Sound.sublist {os ps : List Origin} (h : Sound os) (hs : ps.Sublist os) : Sound ps :=
  ⟨(hs.map _).nodup h.distinct, h.ordered.sublist hs, fun o ho => h.legible o (hs.subset ho)⟩

namespace Task

variable {ts : List Task}

theorem reread_legible {t : Task} (h : Row.Legible t.context) : t.reread = .ok t := by
  have hs : t.storedContext = .ok t.context := by
    rw [storedContext]
    cases hc : t.context with
    | none => rfl
    | some c =>
      show (Row.readJson _ _ _ >>= _) = _
      rw [Row.readJson, h c hc]
      rfl
  rw [reread, hs]
  rfl

theorem sound_filter (h : Sound (ts.map origin)) (p : Task → Bool) :
    Sound ((ts.filter p).map origin) := h.sublist (List.filter_sublist.map _)

theorem reread_sound (h : Sound (ts.map origin)) : ∀ t ∈ ts, t.reread = .ok t := fun _ ht =>
  reread_legible (h.legible _ (List.mem_map_of_mem ht))

theorem mapM_reread (h : ∀ t ∈ ts, t.reread = .ok t) : ts.mapM reread = .ok ts := by
  induction ts with
  | nil => rfl
  | cons t ts ih =>
    rw [List.mapM_cons, h t List.mem_cons_self, ih fun u hu => h u (List.mem_cons_of_mem _ hu)]
    rfl

end Task

theorem MemoryStore.distinct_sound {m : MemoryStore} (h : Sound (m.tasks.map Task.origin)) :
    m.Distinct := by
  have := h.distinct
  rwa [List.map_map] at this

namespace TableStore

variable {s : TableStore} {m : MemoryStore} {ts : List Task}

/-! ## Sorting and reading -/

theorem byAge_sound (h : Sound (ts.map Task.origin)) : byAge ts = ts :=
  List.mergeSort_of_pairwise ((List.pairwise_map.mp h.ordered).imp fun hle => decide_eq_true hle)

theorem oldestFirst_sound (h : Sound (ts.map Task.origin)) :
    oldestFirst (ts.map Row.ofTask) = ts.map Row.ofTask := by
  rw [oldestFirst_mirrored, byAge_sound h]

theorem readAll_legible (h : ∀ t ∈ ts, t.reread = .ok t) :
    readAll (ts.map Row.ofTask) = .ok ts := by
  rw [readAll_mirrored, Task.mapM_reread h]

/-! ## Cutting -/

/-- What an integer of 64 bits with a sign cannot count any more, 2 to the power of 63. -/
def capacity : Nat := 0x8000000000000000

theorem slice_map {α β : Type} (f : α → β) (limit offset : Int64) (xs : List α) :
    slice limit offset (xs.map f) = (slice limit offset xs).map f := by
  simp only [slice, ← List.map_drop, ← List.map_take]
  split <;> rfl

theorem slice_sublist {α : Type} (limit offset : Int64) (xs : List α) :
    (slice limit offset xs).Sublist xs := by
  unfold slice
  dsimp only
  split
  · exact List.drop_sublist _ _
  · exact (List.take_sublist _ _).trans (List.drop_sublist _ _)

theorem toInt_toInt64 (n : UInt64) :
    n.toInt64.toInt = if n.toNat < capacity then (n.toNat : Int) else n.toNat - 2 * capacity := by
  have h : n.toInt64.toInt =
      if 2 * n.toNat < 2 * capacity then (n.toNat : Int) else n.toNat - (2 * capacity : Nat) :=
    BitVec.toInt_eq_toNat_cond n.toBitVec
  rw [h]
  simp only [Nat.mul_lt_mul_left (show 0 < 2 by omega)]
  split
  · rfl
  · omega

theorem not_neg_of_toInt {n : Int64} {k : Nat} (h : n.toInt = k) : ¬n < 0 := by
  rw [Int64.lt_iff_toInt_lt, Int64.toInt_zero]
  omega

/-- A page of a result. -/
theorem slice_page {α : Type} {size : Nat} {offset : UInt64} (hsize : size < capacity)
    (hoffset : offset.toNat < capacity) (xs : List α) :
    slice (Int64.ofNat size) offset.toInt64 xs = (xs.drop offset.toNat).take size := by
  have hs : (Int64.ofNat size).toInt = size := Int64.toInt_ofNat_of_lt hsize
  have ho : offset.toInt64.toInt = offset.toNat := by rw [toInt_toInt64, if_pos hoffset]
  simp only [slice, if_neg (not_neg_of_toInt hs), hs, ho, Int.toNat_natCast]

theorem toInt64_neg {n : UInt64} (h : capacity ≤ n.toNat) : n.toInt64 < 0 := by
  have hlt : n.toNat < 2 * capacity := n.toNat_lt
  rw [Int64.lt_iff_toInt_lt, Int64.toInt_zero, toInt_toInt64, if_neg (Nat.not_lt.mpr h)]
  omega

/-- A limit that wraps around is no limit, which is right as long as it exceeds the result. -/
theorem slice_limit {α : Type} (limit : UInt64) {xs : List α} (hsize : xs.length < capacity) :
    slice limit.toInt64 0 xs = xs.take limit.toNat := by
  have hzero : (0 : Int64).toInt.toNat = 0 := rfl
  simp only [slice, hzero, List.drop_zero]
  by_cases h : limit.toNat < capacity
  · have hlimit := toInt_toInt64 limit
    rw [if_pos h] at hlimit
    rw [if_neg (not_neg_of_toInt hlimit), hlimit, Int.toNat_natCast]
  · rw [if_pos (toInt64_neg (Nat.not_lt.mp h)), List.take_of_length_le (by omega)]

/-- A limit that the result does not exceed leaves nothing out. -/
theorem slice_all {α : Type} {limit : UInt64} {xs : List α} (h : xs.length ≤ limit.toNat) :
    slice limit.toInt64 0 xs = xs := by
  by_cases hsize : xs.length < capacity
  · rw [slice_limit limit hsize, List.take_of_length_le h]
  · have hneg : limit.toInt64 < 0 := toInt64_neg (Nat.le_trans (Nat.not_lt.mp hsize) h)
    simp only [slice, if_pos hneg]
    rfl

/-! ## Queries -/

variable (hm : s.Mirrors m) (h : Sound (m.tasks.map Task.origin))

include hm h

theorem get_mirrored (id : TaskId) : s.get id = m.get id := by
  rw [get, load_mirrored hm, MemoryStore.get]
  cases hf : m.find? id with
  | none => rfl
  | some t => simp only [Task.reread_sound h t (MemoryStore.mem_of_find? hf)]

theorem snapshot_mirrored : s.snapshot = m.snapshot := by
  rw [snapshot, hm, oldestFirst_sound h, readAll_legible (Task.reread_sound h),
    MemoryStore.snapshot]

theorem list_mirrored {f : TaskFilter} (hoffset : f.offset.toNat < capacity) :
    s.list f = m.list f := by
  have hrows : ∀ t, (f.status.all (fun x => (Row.ofTask t).status.same (.text x.name)) &&
      f.taskType.all fun x => (Row.ofTask t).taskType.same (.text x.name)) = f.selects t := by
    intro t
    simp only [Row.same_status, Row.same_taskType, TaskFilter.selects]
  have hsize : f.pageSize < capacity := by
    unfold TaskFilter.pageSize maxPageSize capacity
    omega
  have hselected := Task.sound_filter h f.selects
  have hpage : ∀ t ∈ slice (Int64.ofNat f.pageSize) f.offset.toInt64
      (m.tasks.filter f.selects).reverse, t.reread = .ok t := fun t ht =>
    Task.reread_sound hselected t (List.mem_reverse.mp ((slice_sublist _ _ _).subset ht))
  unfold list
  rw [filter_mirrored hm hrows]
  dsimp only
  rw [newestFirst, oldestFirst_sound hselected, ← List.map_reverse, slice_map,
    readAll_legible hpage, slice_page hsize hoffset, MemoryStore.list, List.filter_reverse]

theorem claimable_mirrored (types : List TaskType) (limit : UInt64) (now : Instant)
    (hsize : m.tasks.length < capacity) :
    s.claimable types limit now = m.claimable types limit now := by
  have hrows : ∀ t, (mayBeClaimed now (Row.ofTask t) &&
      (types.isEmpty || types.any fun x => (Row.ofTask t).taskType.same (.text x.name))) =
      (t.isClaimable now && (types.isEmpty || types.contains t.taskType)) := by
    intro t
    simp only [Row.mayBeClaimed_ofTask, Row.same_taskType, List.contains_eq_any_beq,
      beq_eq_decide, eq_comm]
  have hselected := Task.sound_filter h fun t =>
    t.isClaimable now && (types.isEmpty || types.contains t.taskType)
  have hlength := Nat.lt_of_le_of_lt (m.tasks.length_filter_le fun t =>
    t.isClaimable now && (types.isEmpty || types.contains t.taskType)) hsize
  have hsorted := byAge_sound hselected
  unfold byAge at hsorted
  unfold claimable MemoryStore.claimable
  rw [filter_mirrored hm hrows]
  dsimp only
  rw [hsorted, oldestFirst_sound hselected, slice_map, slice_limit limit hlength,
    readAll_legible fun t ht => Task.reread_sound hselected t (List.mem_of_mem_take ht)]

end TableStore

end TaskPipeline
