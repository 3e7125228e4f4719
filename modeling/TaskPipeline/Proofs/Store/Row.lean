import TaskPipeline.Proofs.Store.Codec
import TaskPipeline.Store.Table

/-!
# The row of a task

A task is read back from its row as it was, except for its context: that is a text which is parsed
again, and what the parser makes of it is what the reader gets (`toTask_ofTask`). A selection of
rows agrees with the question about tasks that it stands for.
-/

namespace TaskPipeline

/-- The task with another context. -/
def Task.withContext (t : Task) (context : Option Json) : Task := { t with context := context }

/-- The context that a reader finds in the row of a task. -/
def Task.storedContext (t : Task) : Row.Read (Option Json) :=
  t.context.mapM fun c => Row.readJson .context Row.freeForm? c.toText

/-- The task that a reader finds in the row of a task. -/
def Task.reread (t : Task) : Row.Read Task := t.storedContext.map t.withContext

namespace Row

/-! ## Columns -/

theorem readOption_text {α : Type} (c : Column) (f : α → String) (o : Option α) :
    readOption (readText c) (.ofOption (fun a => .text (f a)) o) = .ok (o.map f) := by
  cases o <;> rfl

theorem readOption_string (c : Column) (o : Option String) :
    readOption (readText c) (.ofOption .text o) = .ok o := by
  cases o <;> rfl

theorem readOption_integer (c : Column) (o : Option Int64) :
    readOption (readInteger c) (.ofOption .integer o) = .ok o := by
  cases o <;> rfl

theorem readUInt32_ofUInt32 (c : Column) (n : UInt32) : readUInt32 c (ofUInt32 n) = .ok n := by
  have hn : (Int64.ofNat n.toNat).toInt = n.toNat :=
    Int64.toInt_ofNat_of_lt (Nat.lt_trans n.toNat_lt_size (by decide))
  have hb : 0 ≤ (n.toNat : Int) ∧ (n.toNat : Int) < (UInt32.size : Int) :=
    ⟨Int.natCast_nonneg _, Int.ofNat_lt.mpr n.toNat_lt_size⟩
  have hr : readUInt32 c (ofUInt32 n) =
      if 0 ≤ (Int64.ofNat n.toNat).toInt ∧ (Int64.ofNat n.toNat).toInt < UInt32.size then
        .ok (UInt32.ofNat (Int64.ofNat n.toNat).toInt.toNat)
      else .error (.outOfRange c.index (Int64.ofNat n.toNat).toInt) := rfl
  rw [hr, hn, if_pos hb, Int.toNat_natCast, UInt32.ofNat_toNat]

theorem readBool_ofBool (c : Column) (b : Bool) : readBool c (ofBool b) = .ok b := by
  cases b <;> rfl

theorem readName_taskType (c : Column) (x : TaskType) :
    readName c TaskType.ofName? .taskType x.name = .ok x := by cases x <;> rfl

theorem readName_status (c : Column) (x : TaskStatus) :
    readName c TaskStatus.ofName? .status x.name = .ok x := by cases x <;> rfl

theorem readName_category (c : Column) (o : Option FailureCategory) :
    (o.map (·.name)).mapM (readName c FailureCategory.ofName? .category) = .ok o := by
  cases o with
  | none => rfl
  | some x => cases x <;> rfl

theorem readJson_listText (c : Column) (rs : List Reflection) :
    readJson c Reflection.ofListText? (Reflection.listText rs) = .ok rs := by
  rw [readJson, Reflection.ofListText?_listText]

theorem bind_of_eq_ok {ε α β : Type} {x : Except ε α} {f : α → Except ε β} {a : α}
    {r : Except ε β} (hx : x = .ok a) (hf : f a = r) : x >>= f = r := by rw [hx]; exact hf

/-- **A task is read back from its row, with its context parsed again.** -/
theorem toTask_ofTask (t : Task) : (ofTask t).toTask = t.reread := by
  have hcontext : (t.context.map (·.toText)).mapM (readJson .context freeForm?) =
      t.storedContext := by
    rw [Task.storedContext]; cases t.context <;> rfl
  unfold toTask
  refine bind_of_eq_ok (readOption_text _ _ _) ?_
  refine bind_of_eq_ok (readOption_text _ _ _) ?_
  refine bind_of_eq_ok (a := Reflection.listText t.reflections) rfl ?_
  refine bind_of_eq_ok (a := t.id) rfl ?_
  refine bind_of_eq_ok (a := t.taskType.name) rfl ?_
  refine bind_of_eq_ok (readName_taskType _ _) ?_
  refine bind_of_eq_ok (a := t.direction) rfl ?_
  rw [hcontext, Task.reread]
  cases t.storedContext with
  | error e => rfl
  | ok context =>
    refine bind_of_eq_ok (a := context) rfl ?_
    refine bind_of_eq_ok (a := t.status.name) rfl ?_
    refine bind_of_eq_ok (readName_status _ _) ?_
    refine bind_of_eq_ok (readUInt32_ofUInt32 _ t.attemptCount) ?_
    refine bind_of_eq_ok (readUInt32_ofUInt32 _ t.maxAttempts) ?_
    refine bind_of_eq_ok (readName_category _ t.lastFailureCategory) ?_
    refine bind_of_eq_ok (readJson_listText _ t.reflections) ?_
    refine bind_of_eq_ok (readOption_string _ t.claimedBy) ?_
    refine bind_of_eq_ok (readOption_integer _ t.nextAttemptAt) ?_
    refine bind_of_eq_ok (readBool_ofBool _ t.cancelled) ?_
    refine bind_of_eq_ok (readOption_string _ t.output) ?_
    refine bind_of_eq_ok (a := t.createdAt) rfl ?_
    exact bind_of_eq_ok (a := t.updatedAt) rfl rfl

/-! ## Selections -/

theorem same_id (t : Task) (id : TaskId) : (ofTask t).id.same (.text id) = (t.id == id) := rfl

theorem same_status (t : Task) (x : TaskStatus) :
    (ofTask t).status.same (.text x.name) = decide (x = t.status) := by
  show (t.status.name == x.name) = _
  cases t.status <;> cases x <;> rfl

theorem same_taskType (t : Task) (x : TaskType) :
    (ofTask t).taskType.same (.text x.name) = decide (x = t.taskType) := by
  show (t.taskType.name == x.name) = _
  cases t.taskType <;> cases x <;> rfl

theorem upTo_integer (a b : Int64) : (Cell.integer a).upTo (.integer b) = decide (a ≤ b) := by
  have h : a ≤ b ↔ a < b ∨ a = b := by
    rw [Int64.le_iff_toInt_le, Int64.lt_iff_toInt_lt, ← Int64.toInt_inj]; omega
  show (decide (a < b) || a == b) = _
  rw [decide_eq_decide.mpr h, Bool.decide_or]
  rfl

theorem sortsUpTo_createdAt (t u : Task) :
    (ofTask t).createdAt.sortsUpTo (ofTask u).createdAt = decide (t.createdAt ≤ u.createdAt) :=
  upTo_integer t.createdAt u.createdAt

theorem mayBeClaimed_ofTask (t : Task) (now : Instant) :
    TableStore.mayBeClaimed now (ofTask t) = t.isClaimable now := by
  have hcancelled : (ofBool t.cancelled).same (.integer 0) = !t.cancelled := by
    cases t.cancelled <;> rfl
  have hnext : ((ofTask t).nextAttemptAt == .null ||
      (ofTask t).nextAttemptAt.upTo (.integer now)) = t.nextAttemptAt.all (· ≤ now) := by
    show (Cell.ofOption .integer t.nextAttemptAt == .null ||
      (Cell.ofOption .integer t.nextAttemptAt).upTo (.integer now)) = _
    cases t.nextAttemptAt with
    | none => rfl
    | some n => exact upTo_integer n now
  rw [TableStore.mayBeClaimed, hnext, same_status, Task.isClaimable]
  show (decide (TaskStatus.pending = t.status) && (ofBool t.cancelled).same (.integer 0) && _) = _
  rw [hcancelled, decide_eq_decide.mpr eq_comm]

/-- What is written back of a task lies in its row, if what identifies the work is untouched. -/
theorem save_ofTask {t u : Task} (h : u.id = t.id ∧ u.taskType = t.taskType ∧
    u.direction = t.direction ∧ u.createdAt = t.createdAt) :
    (ofTask t).save u = ofTask (u.withContext t.context) := by
  obtain ⟨hi, ht, hd, hc⟩ := h
  simp only [save, ofTask, Task.withContext, hi, ht, hd, hc]

end Row

end TaskPipeline
