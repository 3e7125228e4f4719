import TaskPipeline.Proofs.Store.Sweep

/-!
# Sorted rows

A table sorts its rows by their creation times, whatever stands there. Those that can be read come
out in the order in which their tasks wait (`readable_oldestFirst`).
-/

namespace TaskPipeline

/-! ## The order of cells -/

namespace Cell

theorem steps_le {m n : Int64} : (integer m).steps ≤ (integer n).steps ↔ m ≤ n := by
  have hpow : ∀ k, 0 < Nat.pow 2 k := fun k => Nat.pow_pos (by decide)
  rw [steps, steps, Int64.le_iff_toInt_le]
  exact Int.mul_le_mul_right (Int.natCast_pos.mpr (hpow _))

/-- Nulls, numbers by their values, texts. -/
def SortsUpTo : Cell → Cell → Prop
  | null, _ => True
  | _, null => False
  | text s, text t => s ≤ t
  | text _, _ => False
  | _, text _ => True
  | a, b => a.steps ≤ b.steps

theorem text_upTo {s t : String} : (text s).upTo (text t) = true ↔ s ≤ t := by
  rw [upTo, before, same, Bool.or_eq_true, decide_eq_true_eq, beq_iff_eq]
  constructor
  · rintro (hlt | rfl)
    · exact String.not_lt.mp (String.lt_asymm hlt)
    · exact String.le_refl s
  · intro hle
    by_cases hlt : s < t
    · exact .inl hlt
    · exact .inr (String.le_antisymm hle (String.not_lt.mp hlt))

theorem sortsUpTo_iff (a b : Cell) : a.sortsUpTo b = true ↔ a.SortsUpTo b := by
  cases a <;> cases b <;>
    simp only [sortsUpTo, SortsUpTo, Bool.or_eq_true, beq_iff_eq, reduceCtorEq, false_or, text_upTo]
  all_goals simp [upTo, before, same]
  case integer.integer m n => rw [steps_le]; exact Int64.le_iff_lt_or_eq.symm
  all_goals omega

theorem sortsUpTo_total (a b : Cell) : (a.sortsUpTo b || b.sortsUpTo a) = true := by
  rw [Bool.or_eq_true, sortsUpTo_iff, sortsUpTo_iff]
  cases a <;> cases b <;> simp only [SortsUpTo, or_true, or_false]
  case text.text s t => exact String.le_total s t
  all_goals omega

theorem sortsUpTo_trans (a b c : Cell) (hab : a.sortsUpTo b = true) (hbc : b.sortsUpTo c = true) :
    a.sortsUpTo c = true := by
  rw [sortsUpTo_iff] at *
  cases a <;> cases b <;> cases c <;> simp only [SortsUpTo] at *
  case text.text.text => exact String.le_trans hab hbc
  all_goals omega

end Cell

/-! ## Sorting and reading -/

namespace Task

theorem le_trans_createdAt (t u v : Task) (htu : decide (t.createdAt ≤ u.createdAt) = true)
    (huv : decide (u.createdAt ≤ v.createdAt) = true) :
    decide (t.createdAt ≤ v.createdAt) = true := by
  simp only [decide_eq_true_eq] at *
  exact Int64.le_trans htu huv

theorem le_total_createdAt (t u : Task) :
    (decide (t.createdAt ≤ u.createdAt) || decide (u.createdAt ≤ t.createdAt)) = true := by
  simpa using Int64.le_total t.createdAt u.createdAt

end Task

/-- The task in a row, if it can be read. -/
def Row.task? (r : Row) : Option Task := r.toTask.toOption

theorem Row.task?_eq_some {r : Row} {t : Task} : r.task? = some t ↔ r.Reads t := by
  rw [← toTask_eq_ok, task?]
  cases r.toTask <;> simp [Except.toOption]

theorem Row.Reads.createdAt_eq {r : Row} {t : Task} (h : r.Reads t) :
    r.createdAt = (ofTask t).createdAt := readInteger_eq_ok.mp h.createdAt

/-- Every row of the store can be read as a task. -/
def Store.Readable : Store → Prop
  | .memory _ => True
  | .table s => ∀ r ∈ s.rows, ∃ t, r.Reads t

namespace TableStore

variable {rows : List Row} {ts : List Task}

theorem exists_tasks (h : ∀ r ∈ rows, ∃ t, r.Reads t) : ∃ ts, List.Forall₂ Row.Reads rows ts := by
  induction rows with
  | nil => exact ⟨[], .nil⟩
  | cons r rows ih =>
    obtain ⟨t, ht⟩ := h r List.mem_cons_self
    obtain ⟨ts, hts⟩ := ih fun r hr => h r (List.mem_cons_of_mem _ hr)
    exact ⟨t :: ts, .cons ht hts⟩

theorem mapM_toTask (h : List.Forall₂ Row.Reads rows ts) : rows.mapM Row.toTask = .ok ts := by
  induction h with
  | nil => rfl
  | cons hr _ ih =>
    rw [List.mapM_cons, Row.toTask_eq_ok.mpr hr, ih]
    rfl

theorem readAll_tasks (h : List.Forall₂ Row.Reads rows ts) : readAll rows = .ok ts := by
  rw [readAll, mapM_toTask h]

theorem filterMap_tasks (h : List.Forall₂ Row.Reads rows ts) : rows.filterMap Row.task? = ts := by
  induction h with
  | nil => rfl
  | cons hr _ ih => rw [List.filterMap_cons_some (Row.task?_eq_some.mpr hr), ih]

/-- The rows of tasks that are read back as they are. -/
theorem reads_rows (h : ∀ t ∈ ts, t.reread = .ok t) :
    List.Forall₂ Row.Reads (ts.map Row.ofTask) ts := by
  refine List.forall₂_map_left_iff.mpr (List.forall₂_same.mpr fun t ht => ?_)
  exact Row.toTask_eq_ok.mp ((Row.toTask_ofTask t).trans (h t ht))

theorem readable_rows (h : ∀ t ∈ ts, t.reread = .ok t) (records : List (String × String)) :
    (Store.table ⟨ts.map Row.ofTask, records⟩).Readable := fun _ hr =>
  let ⟨t, _, ht⟩ := exists_of_forall₂ (reads_rows h).flip hr
  ⟨t, ht⟩

theorem keyed_rows (h : (ts.map (·.id)).Nodup) (records : List (String × String)) :
    (Store.table ⟨ts.map Row.ofTask, records⟩).Keyed := by
  have hids : (ts.map Row.ofTask).filterMap Row.key? = ts.map (·.id) := by
    rw [List.filterMap_map]
    exact congrFun (List.filterMap_eq_map (f := fun t : Task => t.id)) ts
  show ((ts.map Row.ofTask).filterMap Row.key?).Nodup
  rw [hids]
  exact h

end TableStore

section Insert

variable {α : Type} {le : α → α → Bool}
  (htrans : ∀ a b c, le a b = true → le b c = true → le a c = true)
  (htotal : ∀ a b, (le a b || le b a) = true)

include htrans htotal

/-- Where a value that stands first comes in: before all that it is up to, and the others stay. -/
theorem exists_mergeSort_cons (a : α) (l : List α) : ∃ before after,
    (a :: l).mergeSort le = before ++ a :: after ∧ l.mergeSort le = before ++ after ∧
      (∀ b ∈ before, le a b = false) ∧ ∀ b ∈ after, le a b = true := by
  obtain ⟨before, after, hsorted, hrest, hbefore⟩ := List.mergeSort_cons htrans htotal a l
  have hpairs := List.pairwise_mergeSort htrans htotal (a :: l)
  rw [hsorted] at hpairs
  refine ⟨before, after, hsorted, hrest, fun b hb => by simpa using hbefore b hb, ?_⟩
  exact (List.pairwise_cons.mp (List.pairwise_append.mp hpairs).2.1).1

end Insert

/-- A list falls only in one way into those without and those with a property. -/
theorem append_eq_of_forall {α : Type} {p : α → Bool} {a b c d : List α} (h : a ++ b = c ++ d)
    (ha : ∀ x ∈ a, p x = false) (hb : ∀ x ∈ b, p x = true) (hc : ∀ x ∈ c, p x = false)
    (hd : ∀ x ∈ d, p x = true) : a = c ∧ b = d := by
  have hwith : ∀ {x y : List α}, (∀ z ∈ x, p z = false) → (∀ z ∈ y, p z = true) →
      (x ++ y).filter p = y := by
    intro x y hx hy
    rw [List.filter_append, List.filter_eq_nil_iff.mpr fun z hz => by simp [hx z hz],
      List.filter_eq_self.mpr hy, List.nil_append]
  have hsame : b = d := by rw [← hwith ha hb, h, hwith hc hd]
  subst hsame
  exact ⟨List.append_cancel_right h, rfl⟩

namespace TableStore

theorem exists_oldestFirst_cons (r : Row) (rows : List Row) : ∃ before after,
    oldestFirst (r :: rows) = before ++ r :: after ∧ oldestFirst rows = before ++ after ∧
      (∀ q ∈ before, r.createdAt.sortsUpTo q.createdAt = false) ∧
      ∀ q ∈ after, r.createdAt.sortsUpTo q.createdAt = true := by
  unfold oldestFirst
  refine exists_mergeSort_cons ?_ ?_ r rows
  · exact fun _ _ _ => Cell.sortsUpTo_trans _ _ _
  · exact fun _ _ => Cell.sortsUpTo_total _ _

theorem exists_byAge_cons (t : Task) (ts : List Task) : ∃ older others,
    byAge (t :: ts) = older ++ t :: others ∧ byAge ts = older ++ others ∧
      (∀ u ∈ older, decide (t.createdAt ≤ u.createdAt) = false) ∧
      ∀ u ∈ others, decide (t.createdAt ≤ u.createdAt) = true := by
  unfold byAge
  refine exists_mergeSort_cons ?_ ?_ t ts
  · exact Task.le_trans_createdAt
  · exact Task.le_total_createdAt

/-- Rows that can be read are sorted as their tasks are. -/
theorem readable_oldestFirst (rows : List Row) :
    (oldestFirst rows).filterMap Row.task? = byAge (rows.filterMap Row.task?) := by
  induction rows with
  | nil => simp [oldestFirst, byAge]
  | cons r rows ih =>
    obtain ⟨before, after, hsorted, hrest, hbefore, hafter⟩ := exists_oldestFirst_cons r rows
    rw [hrest, List.filterMap_append] at ih
    rw [hsorted, List.filterMap_append]
    cases hr : r.task? with
    | none => rw [List.filterMap_cons_none hr, List.filterMap_cons_none hr, ih]
    | some t =>
      obtain ⟨older, others, hline, hothers, holder, hyounger⟩ :=
        exists_byAge_cons t (rows.filterMap Row.task?)
      have hle : ∀ (q : Row) (u : Task), q.task? = some u →
          r.createdAt.sortsUpTo q.createdAt = decide (t.createdAt ≤ u.createdAt) := by
        intro q u hq
        rw [(Row.task?_eq_some.mp hr).createdAt_eq, (Row.task?_eq_some.mp hq).createdAt_eq,
          Row.sortsUpTo_createdAt]
      rw [hothers] at ih
      have hb : ∀ u ∈ before.filterMap Row.task?, decide (t.createdAt ≤ u.createdAt) = false := by
        intro u hu
        obtain ⟨q, hq, hread⟩ := List.mem_filterMap.mp hu
        rw [← hle q u hread]
        exact hbefore q hq
      have ha : ∀ u ∈ after.filterMap Row.task?, decide (t.createdAt ≤ u.createdAt) = true := by
        intro u hu
        obtain ⟨q, hq, hread⟩ := List.mem_filterMap.mp hu
        rw [← hle q u hread]
        exact hafter q hq
      have hsame := append_eq_of_forall ih hb ha holder hyounger
      rw [List.filterMap_cons_some hr, List.filterMap_cons_some hr, hline, hsame.1, hsame.2]

end TableStore

end TaskPipeline
