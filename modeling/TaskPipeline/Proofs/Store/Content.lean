import Mathlib.Logic.Function.Basic
import TaskPipeline.Proofs.Store.Mirror

/-!
# Stores of any content

What is said here holds of every store: the rows of a table may have been edited by hand, and some
of them may not be readable as tasks. `Row.Reads` says column by column what a readable row holds.
A call on one task either leaves all that can be read as it was, or puts one task in its place
(`asked_perform`, `claim_cases`), and no other call but a sweep touches what is stored.
-/

namespace TaskPipeline

/-! ## Rows that can be read -/

theorem Cell.same_text {c : Cell} {s : String} : c.same (.text s) = true ↔ c = .text s := by
  cases c <;> simp [Cell.same]

namespace Row

/-- The id in a row, if it is a text. -/
def key? (r : Row) : Option TaskId :=
  match r.id with
  | .text s => some s
  | _ => none

theorem key?_eq_some {r : Row} {id : TaskId} : r.key? = some id ↔ r.id = .text id := by
  unfold key?
  split <;> simp_all

/-- Every column of the row is read as the task has it. -/
structure Reads (r : Row) (t : Task) : Prop where
  id : readText .id r.id = .ok t.id
  taskType : ∃ name, readText .taskType r.taskType = .ok name ∧
    readName .taskType TaskType.ofName? .taskType name = .ok t.taskType
  direction : readText .direction r.direction = .ok t.direction
  context : ∃ text, readOption (readText .context) r.context = .ok text ∧
    text.mapM (readJson .context freeForm?) = .ok t.context
  status : ∃ name, readText .status r.status = .ok name ∧
    readName .status TaskStatus.ofName? .status name = .ok t.status
  attemptCount : readUInt32 .attemptCount r.attemptCount = .ok t.attemptCount
  maxAttempts : readUInt32 .maxAttempts r.maxAttempts = .ok t.maxAttempts
  lastFailureCategory : ∃ name,
    readOption (readText .lastFailureCategory) r.lastFailureCategory = .ok name ∧
    name.mapM (readName .lastFailureCategory FailureCategory.ofName? .category) =
      .ok t.lastFailureCategory
  reflections : ∃ text, readText .retryReflections r.retryReflections = .ok text ∧
    readJson .retryReflections Reflection.ofListText? text = .ok t.reflections
  claimedBy : readOption (readText .claimedBy) r.claimedBy = .ok t.claimedBy
  nextAttemptAt : readOption (readInteger .nextAttemptAt) r.nextAttemptAt = .ok t.nextAttemptAt
  cancelled : readBool .cancelled r.cancelled = .ok t.cancelled
  output : readOption (readText .output) r.output = .ok t.output
  createdAt : readInteger .createdAt r.createdAt = .ok t.createdAt
  updatedAt : readInteger .updatedAt r.updatedAt = .ok t.updatedAt

/-- **A row is read as a task exactly if each of its columns is.** -/
theorem toTask_eq_ok {r : Row} {t : Task} : r.toTask = .ok t ↔ r.Reads t := by
  constructor
  · intro h
    simp only [toTask, Task.bind_eq_ok] at h
    obtain ⟨context, hcontext, category, hcategory, reflections, hreflections, id, hid, type, htype,
      type', htype', direction, hdirection, context', hcontext', status, hstatus, status', hstatus',
      count, hcount, max, hmax, category', hcategory', reflections', hreflections', holder, hholder,
      next, hnext, cancelled, hcancelled, output, houtput, created, hcreated, updated, hupdated,
      h⟩ := h
    cases h
    exact ⟨hid, ⟨_, htype, htype'⟩, hdirection, ⟨_, hcontext, hcontext'⟩, ⟨_, hstatus, hstatus'⟩,
      hcount, hmax, ⟨_, hcategory, hcategory'⟩, ⟨_, hreflections, hreflections'⟩, hholder, hnext,
      hcancelled, houtput, hcreated, hupdated⟩
  · intro h
    obtain ⟨type, htype, htype'⟩ := h.taskType
    obtain ⟨context, hcontext, hcontext'⟩ := h.context
    obtain ⟨status, hstatus, hstatus'⟩ := h.status
    obtain ⟨category, hcategory, hcategory'⟩ := h.lastFailureCategory
    obtain ⟨reflections, hreflections, hreflections'⟩ := h.reflections
    unfold toTask
    refine bind_of_eq_ok hcontext (bind_of_eq_ok hcategory (bind_of_eq_ok hreflections ?_))
    refine bind_of_eq_ok h.id (bind_of_eq_ok htype (bind_of_eq_ok htype' ?_))
    refine bind_of_eq_ok h.direction (bind_of_eq_ok hcontext' ?_)
    refine bind_of_eq_ok hstatus (bind_of_eq_ok hstatus' ?_)
    refine bind_of_eq_ok h.attemptCount (bind_of_eq_ok h.maxAttempts ?_)
    refine bind_of_eq_ok hcategory' (bind_of_eq_ok hreflections' ?_)
    refine bind_of_eq_ok h.claimedBy (bind_of_eq_ok h.nextAttemptAt ?_)
    refine bind_of_eq_ok h.cancelled (bind_of_eq_ok h.output ?_)
    exact bind_of_eq_ok h.createdAt (bind_of_eq_ok h.updatedAt rfl)

section Reads

variable {r : Row} {t u : Task}

theorem readText_eq_ok {c : Column} {cell : Cell} {s : String} :
    readText c cell = .ok s ↔ cell = .text s := by
  cases cell <;> simp [readText, wrongType]

theorem readInteger_eq_ok {c : Column} {cell : Cell} {n : Int64} :
    readInteger c cell = .ok n ↔ cell = .integer n := by
  cases cell <;> simp [readInteger, wrongType]

theorem readName_status_eq_ok {c : Column} {s : String} {x : TaskStatus} :
    readName c TaskStatus.ofName? .status s = .ok x ↔ s = x.name := by
  constructor
  · intro h
    unfold readName at h
    split at h
    · next y hy =>
      cases h
      exact (by simpa [TaskStatus.ofName?] using List.find?_some hy : x.name = s).symm
    · cases h
  · rintro rfl
    exact readName_status c x

theorem Reads.key? (h : r.Reads t) : r.key? = some t.id :=
  key?_eq_some.mpr (readText_eq_ok.mp h.id)

theorem Reads.status_eq (h : r.Reads t) : r.status = (ofTask t).status := by
  obtain ⟨name, hname, hstatus⟩ := h.status
  rw [readText_eq_ok.mp hname, readName_status_eq_ok.mp hstatus]
  rfl

theorem Reads.updatedAt_eq (h : r.Reads t) : r.updatedAt = (ofTask t).updatedAt :=
  readInteger_eq_ok.mp h.updatedAt

theorem Reads.nextAttemptAt_eq (h : r.Reads t) : r.nextAttemptAt = (ofTask t).nextAttemptAt := by
  have hread := h.nextAttemptAt
  unfold readOption at hread
  split at hread
  · next hnull =>
    show r.nextAttemptAt = Cell.ofOption .integer t.nextAttemptAt
    rw [← Except.ok.inj hread, hnull]
    rfl
  · obtain ⟨n, hn, hsome⟩ := Task.map_eq_ok.mp hread
    show r.nextAttemptAt = Cell.ofOption .integer t.nextAttemptAt
    rw [← hsome, readInteger_eq_ok.mp hn]
    rfl

theorem Reads.same_cancelled (h : r.Reads t) :
    r.cancelled.same (.integer 0) = (ofTask t).cancelled.same (.integer 0) := by
  obtain ⟨n, hn, hne⟩ := Task.bind_eq_ok.mp h.cancelled
  rw [readInteger_eq_ok.mp hn]
  show (n == 0) = (Cell.integer (if t.cancelled then 1 else 0)).same (.integer 0)
  rw [← Except.ok.inj hne]
  by_cases h0 : n = 0
  · simp [h0, Cell.same]
  · simp [h0, Cell.same]

/-- Whether a readable row may be claimed is a question about its task. -/
theorem Reads.mayBeClaimed (h : r.Reads t) (now : Instant) :
    TableStore.mayBeClaimed now r = t.isClaimable now := by
  rw [← mayBeClaimed_ofTask, TableStore.mayBeClaimed, TableStore.mayBeClaimed, h.status_eq,
    h.nextAttemptAt_eq, h.same_cancelled]

/-- A readable row in which the changes of its task are saved is read as the changed task. -/
theorem Reads.save (h : r.Reads t) (hkeeps : u.id = t.id ∧ u.taskType = t.taskType ∧
      u.direction = t.direction ∧ u.context = t.context ∧ u.createdAt = t.createdAt) :
    (r.save u).Reads u := by
  obtain ⟨hid, htype, hdirection, hcontext, hcreated⟩ := hkeeps
  exact {
    id := by rw [hid]; exact h.id
    taskType := by rw [htype]; exact h.taskType
    direction := by rw [hdirection]; exact h.direction
    context := by rw [hcontext]; exact h.context
    status := ⟨_, rfl, readName_status _ _⟩
    attemptCount := readUInt32_ofUInt32 _ _
    maxAttempts := readUInt32_ofUInt32 _ _
    lastFailureCategory := ⟨_, readOption_text _ _ _, readName_category _ _⟩
    reflections := ⟨_, rfl, readJson_listText _ _⟩
    claimedBy := readOption_string _ _
    nextAttemptAt := readOption_integer _ _
    cancelled := readBool_ofBool _ _
    output := readOption_string _ _
    createdAt := by rw [hcreated]; exact h.createdAt
    updatedAt := rfl }

/-- The row in the hands of a worker that has just claimed it. -/
def heldBy (r : Row) (worker : WorkerId) (now : Instant) : Row :=
  { r with
    status := .text TaskStatus.claimed.name, claimedBy := .text worker, updatedAt := .integer now }

theorem Reads.heldBy (h : r.Reads t) (worker : WorkerId) (now : Instant) :
    (r.heldBy worker now).Reads (t.heldBy worker now) :=
  { h with status := ⟨_, rfl, rfl⟩, claimedBy := rfl, updatedAt := rfl }

/-- A claim may make a row readable: what it overwrites may have been all that was wrong. -/
theorem held_of_reads {worker : WorkerId} {now : Instant} (h : (r.heldBy worker now).Reads t) :
    t.status = .claimed ∧ t.claimedBy = some worker ∧ t.updatedAt = now := by
  obtain ⟨name, hname, hstatus⟩ := h.status
  refine ⟨?_, (Except.ok.inj h.claimedBy).symm, (Except.ok.inj h.updatedAt).symm⟩
  cases hname
  exact (Except.ok.inj hstatus).symm

end Reads

end Row

/-! ## What is read from a store -/

namespace Store

/-- The ids that something is stored under, readable or not. -/
def ids : Store → List TaskId
  | memory m => m.tasks.map (·.id)
  | table t => t.rows.filterMap Row.key?

/-- No two tasks are stored under one id. -/
def Keyed (s : Store) : Prop := s.ids.Nodup

instance (s : Store) : Decidable s.Keyed := inferInstanceAs (Decidable s.ids.Nodup)

/-- All that can be read stays. -/
structure Same (s s' : Store) : Prop where
  ids : s'.ids = s.ids
  task? : s'.task? = s.task?

/-- One task takes the place of what was read under its id. -/
structure Puts (s : Store) (u : Task) (s' : Store) : Prop where
  ids : s'.ids = s.ids
  task? : s'.task? = Function.update s.task? u.id (some u)

theorem Keyed.of_ids {s s' : Store} (h : s.Keyed) (hids : s'.ids = s.ids) : s'.Keyed := by
  unfold Keyed
  rw [hids]
  exact h

theorem Same.refl (s : Store) : s.Same s := ⟨rfl, rfl⟩

section Puts

variable {s s' : Store} {u : Task}

theorem Puts.self (h : s.Puts u s') : s'.task? u.id = some u := by
  rw [h.task?, Function.update_self]

theorem Puts.other (h : s.Puts u s') {i : TaskId} (hi : i ≠ u.id) : s'.task? i = s.task? i := by
  rw [h.task?, Function.update_of_ne hi]

end Puts

theorem task?_table (t : TableStore) (i : TaskId) :
    (table t).task? i = (t.row? i).bind fun r => r.toTask.toOption := by
  simp only [task?, get, TableStore.get, TableStore.load]
  cases t.row? i with
  | none => rfl
  | some r => simp only [Option.bind_some]; cases r.toTask <;> rfl

theorem load_eq_ok {t : TableStore} {i : TaskId} {v : Task} :
    t.load i = .ok v ↔ (table t).task? i = some v := by
  simp only [task?, get, TableStore.get]
  cases t.load i <;> simp [Except.toOption]

end Store

namespace TableStore

variable {s : TableStore} {r : Row} {id : TaskId}

theorem row?_eq_some (h : s.row? id = some r) : r ∈ s.rows ∧ r.id = .text id := by
  unfold row? at h
  exact ⟨List.mem_of_find?_eq_some h, Cell.same_text.mp (by simpa using List.find?_some h)⟩

/-- A task that is read lies in a row, under its id. -/
theorem exists_row {t : Task} (h : (Store.table s).task? id = some t) :
    ∃ r, s.row? id = some r ∧ r.Reads t ∧ t.id = id := by
  rw [Store.task?_table] at h
  obtain ⟨r, hr, ht⟩ := Option.bind_eq_some_iff.mp h
  have hreads : r.Reads t := by
    refine Row.toTask_eq_ok.mp ?_
    cases hread : r.toTask <;> simp_all [Except.toOption]
  refine ⟨r, hr, hreads, ?_⟩
  have hkey := Row.readText_eq_ok.mp hreads.id
  rw [(row?_eq_some hr).2] at hkey
  exact (Cell.text.inj hkey).symm

theorem task?_of_row? (hr : s.row? id = some r) :
    (Store.table s).task? id = r.toTask.toOption := by
  rw [Store.task?_table, hr]
  rfl

/-! ## Changes of one row -/

section Modify

variable {f : Row → Row} (hf : ∀ r, (f r).id = r.id)
include hf

theorem ids_modify (s : TableStore) (id : TaskId) :
    (Store.table (s.modify id f)).ids = (Store.table s).ids := by
  show (s.rows.map _).filterMap Row.key? = s.rows.filterMap Row.key?
  rw [List.filterMap_map]
  refine List.filterMap_congr ?_
  intro r _
  show Row.key? (if r.id.same (.text id) then f r else r) = r.key?
  split
  · rw [Row.key?, Row.key?, hf]
  · rfl

theorem row?_modify (s : TableStore) (id i : TaskId) :
    (s.modify id f).row? i = if i = id then (s.row? i).map f else s.row? i := by
  have hkeep : ∀ r : Row, (if r.id.same (.text id) then f r else r).id = r.id := by
    intro r
    split
    · exact hf r
    · rfl
  have hmap : (s.modify id f).row? i =
      (s.row? i).map fun r => if r.id.same (.text id) then f r else r := by
    show (s.rows.map _).find? _ = _
    rw [List.find?_map]
    simp only [Function.comp_def, hkeep]
    rfl
  rw [hmap]
  cases hr : s.row? i with
  | none => simp
  | some r =>
    have hid := (row?_eq_some hr).2
    by_cases hi : i = id
    · simp [hi, hid, Cell.same]
    · simp [hi, hid, Cell.same]

theorem task?_modify_ne (s : TableStore) {id i : TaskId} (hi : i ≠ id) :
    (Store.table (s.modify id f)).task? i = (Store.table s).task? i := by
  rw [Store.task?_table, Store.task?_table, row?_modify hf, if_neg hi]

/-- A row that is changed, and read as a task afterwards. -/
theorem puts_modify {u : Task} (hr : s.row? u.id = some r) (hu : (f r).Reads u) :
    (Store.table s).Puts u (.table (s.modify u.id f)) := by
  refine ⟨ids_modify hf s u.id, ?_⟩
  funext i
  by_cases hi : i = u.id
  · subst hi
    rw [Function.update_self, Store.task?_table, row?_modify hf, if_pos rfl, hr]
    simp only [Option.map_some, Option.bind_some, Row.toTask_eq_ok.mpr hu]
    rfl
  · rw [Function.update_of_ne hi, task?_modify_ne hf s hi]

end Modify

/-- A task that was read and changed is written back. -/
theorem puts_save {t u : Task} (ht : (Store.table s).task? id = some t) (hkeeps : u.id = t.id ∧
      u.taskType = t.taskType ∧ u.direction = t.direction ∧ u.context = t.context ∧
      u.createdAt = t.createdAt) : (Store.table s).Puts u (.table (s.save u)) := by
  obtain ⟨r, hr, hreads, hid⟩ := exists_row ht
  have hrow : s.row? u.id = some r := by rw [hkeeps.1, hid]; exact hr
  exact puts_modify (f := (·.save u)) (fun _ => rfl) hrow (hreads.save hkeeps)

end TableStore

namespace MemoryStore

theorem puts_put {s : MemoryStore} {t u : Task} {id : TaskId} (ht : s.find? id = some t)
    (hu : u.id = t.id) : (Store.memory s).Puts u (.memory (s.put u)) := by
  refine ⟨ids_put s u, ?_⟩
  have hfound : s.find? u.id = some t := by rw [hu, id_of_find? ht]; exact ht
  funext i
  rw [Store.task?_memory, Store.task?_memory, find?_put hfound, Function.update_apply]

end MemoryStore

namespace Store

theorem id_of_task? {s : Store} {id : TaskId} {t : Task} (h : s.task? id = some t) : t.id = id := by
  cases s with
  | memory m => rw [task?_memory] at h; exact MemoryStore.id_of_find? h
  | table t => obtain ⟨_, _, _, hid⟩ := TableStore.exists_row h; exact hid

theorem mem_ids_of_task? {s : Store} {id : TaskId} {t : Task} (h : s.task? id = some t) :
    id ∈ s.ids := by
  cases s with
  | memory m =>
    rw [task?_memory] at h
    exact List.mem_map.mpr ⟨t, MemoryStore.mem_of_find? h, MemoryStore.id_of_find? h⟩
  | table s =>
    obtain ⟨r, hr, _, _⟩ := TableStore.exists_row h
    obtain ⟨hmem, hid⟩ := TableStore.row?_eq_some hr
    exact List.mem_filterMap.mpr ⟨r, hmem, Row.key?_eq_some.mpr hid⟩

end Store

/-! ## Operations on one task -/

namespace TableStore

/-- What a table answers and leaves if an operation is asked of the task with an id: what the
operation makes of the task that is read is saved. -/
inductive Saves (s : TableStore) (now : Instant) (id : TaskId) (op : Operation) :
    Answer Reply × Store → Prop where
  | unread {e : StoreError} : s.load id = .error e → Saves s now id op (.error e, .table s)
  | refused {t : Task} {e : Fault} : s.load id = .ok t → t.carry op now = .error e →
      Saves s now id op (.error (.inTask e), .table s)
  | saves {t u : Task} {q : Reply} : s.load id = .ok t → t.carry op now = .ok (q, u) →
      Saves s now id op (.ok q, .table (s.save u))

section Saves

variable {now : Instant} {id : TaskId} {op : Operation}

/-- Any change of the task with an id. -/
theorem saves_update {α : Type} (s : TableStore)
    {change : Task → Except Fault (α × Task)} {wrap : α × Task → Reply}
    (hcarry : ∀ t, t.carry op now = (change t).map fun r => (wrap r, r.2)) :
    s.Saves now id op (Store.answered wrap (Store.lift .table (s.update id change))) := by
  unfold update
  cases hload : s.load id with
  | error e => exact .unread hload
  | ok t =>
    dsimp only
    cases hc : change t with
    | error e => exact .refused hload (by rw [hcarry, hc]; rfl)
    | ok r => exact .saves hload (by rw [hcarry, hc]; rfl)

theorem saves_transition (s : TableStore) {change : Task → Except Fault Task}
    {wrap : Task → Reply} (hcarry : ∀ t, t.carry op now = (change t).map fun u => (wrap u, u)) :
    s.Saves now id op (Store.answered wrap (Store.lift .table (s.transition id change))) := by
  have h : s.Saves now id op (Store.answered (fun r : Unit × Task => wrap r.2)
      (Store.lift .table (s.update id fun t => (change t).map fun t => ((), t)))) :=
    saves_update s fun t => by rw [hcarry]; cases change t <;> rfl
  rwa [← Store.answered_map] at h

theorem saves_perform (s : TableStore) {c : Call} (h : c.asks = some (id, op))
    (hop : ∀ worker, op ≠ .claim worker) : s.Saves now id op ((Store.table s).perform now c) := by
  cases c <;> cases h
  case claim worker => exact absurd rfl (hop worker)
  case recordOutcome => exact saves_update s fun _ => rfl
  case start | resolve | reopen | cancel => exact saves_transition s fun _ => rfl
  case touch worker =>
    have hperform : (Store.table s).perform now (.touch id worker) =
        Store.answered (fun _ => .done) (Store.lift .table (s.transition id (·.touch worker now))) :=
      Store.answered_map (fun _ => ()) (fun _ => Reply.done)
        (Store.lift .table (s.transition id (·.touch worker now)))
    rw [hperform]
    exact saves_transition s fun _ => rfl

end Saves

end TableStore

namespace Store

/-- What a store answers and leaves if an operation is asked of the task with an id: the operation
is carried out on the task that is read, and what it leaves is put in the place of that. -/
inductive Asked (s : Store) (now : Instant) (id : TaskId) (op : Operation) :
    Answer Reply × Store → Prop where
  | missing (e : StoreError) : s.task? id = none → Asked s now id op (.error e, s)
  | refused {t : Task} {e : Fault} : s.task? id = some t →
      t.carry op now = .error e → Asked s now id op (.error (s.failure e), s)
  | carried {t u : Task} {q : Reply} {s' : Store} : s.task? id = some t →
      t.carry op now = .ok (q, u) → s.Puts u s' → Asked s now id op (.ok q, s')

section Asked

variable {now : Instant} {id : TaskId} {op : Operation}

theorem asked_memory (m : MemoryStore) (hop : ∀ worker, op ≠ .claim worker) :
    (memory m).Asked now id op (lift memory (m.asked .ok .inCaller now id op)) := by
  have htask : ∀ i, (memory m).task? i = m.find? i := fun i => by rw [task?_memory]
  cases hf : m.find? id with
  | none =>
    rw [MemoryStore.asked_missing hf]
    exact .missing _ ((htask id).trans hf)
  | some t =>
    cases hc : t.carry op now with
    | error e =>
      rw [MemoryStore.asked_refused hf rfl hc]
      have hrefusal : op.refusal .inCaller e = .error (.inCaller e) := by
        cases op with
        | claim worker => exact absurd rfl (hop worker)
        | _ => rfl
      rw [hrefusal]
      exact .refused ((htask id).trans hf) hc
    | ok r =>
      rw [MemoryStore.asked_whole hf rfl hc]
      exact .carried ((htask id).trans hf) hc
        (MemoryStore.puts_put hf (Task.moves_of_carry hc).keeps.1)

theorem asked_table (s : TableStore) {c : Call} (h : c.asks = some (id, op))
    (hop : ∀ worker, op ≠ .claim worker) :
    (table s).Asked now id op ((table s).perform now c) := by
  have hsaves : s.Saves now id op ((table s).perform now c) := s.saves_perform h hop
  generalize (table s).perform now c = step at hsaves
  cases hsaves with
  | @unread e hload =>
    refine .missing e ?_
    simp only [task?, get, TableStore.get, hload]
    rfl
  | refused hload hc => exact .refused (load_eq_ok.mp hload) hc
  | saves hload hc =>
    have ht := load_eq_ok.mp hload
    exact .carried ht hc (TableStore.puts_save ht (Task.moves_of_carry hc).keeps)

/-- **A call that asks an operation of one task carries it out on the task that is read.** A claim
is told apart, since a table writes it before it reads the task. -/
theorem asked_perform (s : Store) {c : Call} (h : c.asks = some (id, op))
    (hop : ∀ worker, op ≠ .claim worker) : s.Asked now id op (s.perform now c) := by
  cases s with
  | memory m => rw [MemoryStore.perform_asks m now h]; exact asked_memory m hop
  | table s => exact asked_table s h hop

/-- The answer of an operation by itself: it fails and changes nothing, since the task that is read
refuses or there is none, or it tells about the task that is put back. -/
theorem Asked.answered {α : Type} {s : Store} {wrap : α → Reply} {step : Answer α × Store}
    (h : s.Asked now id op (answered wrap step)) :
    (∃ e, step = (.error e, s) ∧
      ∀ t, s.task? id = some t → ∃ e', t.carry op now = .error e') ∨
    ∃ t u a s', s.task? id = some t ∧ t.carry op now = .ok (wrap a, u) ∧ s.Puts u s' ∧
      step = (.ok a, s') := by
  obtain ⟨answer, s'⟩ := step
  generalize hstep : Store.answered wrap (answer, s') = step at h
  cases h with
  | missing e hf =>
    cases answer <;> cases hstep
    exact .inl ⟨e, rfl, fun t ht => nomatch hf.symm.trans ht⟩
  | @refused t e hf hc =>
    obtain ⟨hanswer, hs'⟩ := Prod.mk.inj hstep
    cases answer with
    | ok => cases hanswer
    | error e' =>
      refine .inl ⟨e', Prod.ext rfl hs', ?_⟩
      intro v hv
      cases hf.symm.trans hv
      exact ⟨e, hc⟩
  | carried hf hc hputs =>
    cases answer <;> cases hstep
    exact .inr ⟨_, _, _, _, hf, hc, hputs, rfl⟩

/-- Without its answer: all stays, or the task that is read makes its move. -/
theorem Asked.same_or_puts {s : Store} {step : Answer Reply × Store} (h : s.Asked now id op step) :
    step.2 = s ∨ ∃ t u, s.task? id = some t ∧ t.Moves now op u ∧ u.id = id ∧ s.Puts u step.2 := by
  cases h with
  | missing | refused => exact .inl rfl
  | carried ht hc hputs =>
    have hmoves := Task.moves_of_carry hc
    exact .inr ⟨_, _, ht, hmoves, hmoves.keeps.1.trans (id_of_task? ht), hputs⟩

/-- An attempt is opened of a task that the worker has claimed. -/
theorem start_cases (s : Store) (id : TaskId) (worker : WorkerId) (now : Instant) :
    (∃ e, s.start id worker now = (.error e, s)) ∨
    ∃ t u s', s.task? id = some t ∧ t.Moves now (.start worker) u ∧ s.Puts u s' ∧
      s.start id worker now = (.ok u, s') := by
  have h : s.Asked now id (.start worker) (answered .task (s.start id worker now)) :=
    asked_perform s (c := .start id worker) rfl (by simp)
  rcases h.answered with ⟨e, hstep, _⟩ | ⟨t, u, a, s', ht, hc, hputs, hstep⟩
  · exact .inl ⟨e, hstep⟩
  · obtain ⟨_, _, hu⟩ := Task.map_eq_ok.mp hc
    cases hu
    exact .inr ⟨t, u, s', ht, Task.moves_of_carry hc, hputs, hstep⟩

/-- A sign of life from the holder of a task. -/
theorem touch_held {s : Store} {t : Task} {worker : WorkerId} (ht : s.task? id = some t)
    (hs : t.status.isHeld = true) (hw : t.claimedBy = some worker) :
    s.Puts { t with updatedAt := now } (s.touch id worker now).2 := by
  have htouch : t.carry (.touch worker) now = .ok (.done, { t with updatedAt := now }) := by
    simp only [Task.carry, Task.touch, if_pos hs, Task.ensureHolder, if_pos hw]
    rfl
  have h : s.Asked now id (.touch worker) (answered (fun _ => .done) (s.touch id worker now)) :=
    asked_perform s (c := .touch id worker) rfl (by simp)
  rcases h.answered with ⟨_, _, herror⟩ | ⟨v, u, _, s', hv, hc, hputs, hstep⟩
  · obtain ⟨_, he⟩ := herror t ht
    cases htouch.symm.trans he
  · cases ht.symm.trans hv
    cases htouch.symm.trans hc
    rw [hstep]
    exact hputs

/-- An attempt is settled as the task that is read says. -/
theorem recordOutcome_cases (s : Store) (id : TaskId) (attempt : UInt32) (decision : Decision)
    (now : Instant) :
    (∃ e, s.recordOutcome id attempt decision now = (.error e, s)) ∨
    ∃ t u a s', s.task? id = some t ∧ t.settle attempt decision now = .ok (a, u) ∧
      s.Puts u s' ∧ s.recordOutcome id attempt decision now = (.ok (a, u), s') := by
  have h : s.Asked now id (.settle attempt decision)
      (answered (fun r => .settled r.1 r.2) (s.recordOutcome id attempt decision now)) :=
    asked_perform s (c := .recordOutcome id attempt decision) rfl (by simp)
  rcases h.answered with ⟨e, hstep, _⟩ | ⟨t, u, r, s', ht, hc, hputs, hstep⟩
  · exact .inl ⟨e, hstep⟩
  · obtain ⟨⟨a, v⟩, hsettle, hr⟩ := Task.map_eq_ok.mp hc
    cases hr
    exact .inr ⟨t, _, _, s', ht, hsettle, hputs, hstep⟩

end Asked

/-! ## Claims -/

theorem modify_same {s : TableStore} {id : TaskId} {f : Row → Row} (hf : ∀ r, (f r).id = r.id)
    (h : ((s.row? id).map f).bind (·.toTask.toOption) = (table s).task? id) :
    (table s).Same (table (s.modify id f)) := by
  refine ⟨TableStore.ids_modify hf s id, ?_⟩
  funext i
  by_cases hi : i = id
  · subst hi
    rw [task?_table, TableStore.row?_modify hf, if_pos rfl, h]
  · rw [TableStore.task?_modify_ne hf s hi]

/-- The worker holds the task that is read from now on. What was read before, if anything was,
could be claimed. -/
structure Wins (s : Store) (id : TaskId) (worker : WorkerId) (now : Instant) (t : Task)
    (s' : Store) : Prop where
  puts : s.Puts t s'
  id_eq : t.id = id
  status : t.status = .claimed
  claimedBy : t.claimedBy = some worker
  updatedAt : t.updatedAt = now
  before : ∀ v, s.task? id = some v → v.isClaimable now = true ∧ t = v.heldBy worker now

section Claim

variable {id : TaskId} {worker : WorkerId} {now : Instant}

theorem wins_memory {m : MemoryStore} {v : Task} (hf : m.find? id = some v)
    (hc : v.isClaimable now = true) :
    (memory m).Wins id worker now (v.heldBy worker now) (memory (m.put (v.heldBy worker now))) := by
  have hid : v.id = id := MemoryStore.id_of_find? hf
  refine ⟨MemoryStore.puts_put hf rfl, hid, rfl, rfl, rfl, ?_⟩
  intro w hw
  rw [task?_memory, hf] at hw
  cases hw
  exact ⟨hc, rfl⟩

theorem claimRow_id (worker : WorkerId) (now : Instant) (r : Row) :
    (TableStore.claimRow worker now r).id = r.id := by
  unfold TableStore.claimRow
  split <;> rfl

/-- A row that cannot be read after its claim could not be read before it. -/
theorem toOption_heldBy {r : Row} {e : ColumnError}
    (h : (r.heldBy worker now).toTask = .error e) :
    (r.heldBy worker now).toTask.toOption = r.toTask.toOption := by
  rw [h]
  cases hv : r.toTask with
  | error e => rfl
  | ok v =>
    have hheld := Row.toTask_eq_ok.mpr ((Row.toTask_eq_ok.mp hv).heldBy worker now)
    cases h.symm.trans hheld

theorem wins_table {s : TableStore} {r : Row} {t : Task} (hr : s.row? id = some r)
    (hc : TableStore.mayBeClaimed now r = true) (hread : (r.heldBy worker now).toTask = .ok t) :
    (table s).Wins id worker now t
      (table (s.modify id (TableStore.claimRow worker now))) := by
  have hrow : TableStore.claimRow worker now r = r.heldBy worker now := if_pos hc
  have hreads := Row.toTask_eq_ok.mp hread
  obtain ⟨hstatus, hholder, hupdated⟩ := Row.held_of_reads hreads
  have hid : t.id = id := by
    have hkey : r.id = .text t.id := Row.readText_eq_ok.mp hreads.id
    rw [(TableStore.row?_eq_some hr).2] at hkey
    exact (Cell.text.inj hkey).symm
  subst hid
  have hheld : (TableStore.claimRow worker now r).Reads t := by rw [hrow]; exact hreads
  refine ⟨TableStore.puts_modify (claimRow_id worker now) hr hheld, rfl, hstatus, hholder, hupdated, ?_⟩
  intro v hv
  obtain ⟨r', hr', hv', _⟩ := TableStore.exists_row hv
  cases hr.symm.trans hr'
  have hheld := Row.toTask_eq_ok.mpr (hv'.heldBy worker now)
  exact ⟨by rw [← hv'.mayBeClaimed, hc], Except.ok.inj (hread.symm.trans hheld)⟩

end Claim

/-- What a claim answers and leaves: all is as it was, or the worker wins the task. -/
theorem claim_cases (s : Store) (id : TaskId) (worker : WorkerId) (now : Instant) :
    (s.Same (s.claim id worker now).2 ∧ ∀ t, (s.claim id worker now).1 ≠ .ok (.claimed t)) ∨
    ∃ t, (s.claim id worker now).1 = .ok (.claimed t) ∧
      s.Wins id worker now t (s.claim id worker now).2 := by
  cases s with
  | memory m =>
    simp only [claim, lift, MemoryStore.claim]
    cases hf : m.find? id with
    | none => exact .inl ⟨.refl _, by simp⟩
    | some v =>
      cases hc : v.isClaimable now with
      | false =>
        simp only [Task.claim_lost hc]
        exact .inl ⟨.refl _, by simp⟩
      | true =>
        simp only [Task.claim_won hc]
        exact .inr ⟨_, rfl, wins_memory hf hc⟩
  | table s =>
    have hkeep := claimRow_id worker now
    simp only [claim, lift, TableStore.claim, TableStore.load, TableStore.row?_modify hkeep,
      if_pos]
    cases hr : s.row? id with
    | none =>
      refine .inl ⟨modify_same hkeep ?_, by simp [Except.map]⟩
      rw [hr, task?_table, hr]
      rfl
    | some r =>
      simp only [Option.map_some, Option.any_some]
      by_cases hc : TableStore.mayBeClaimed now r = true
      · have hrow : TableStore.claimRow worker now r = r.heldBy worker now := if_pos hc
        rw [hrow]
        cases hread : (r.heldBy worker now).toTask with
        | error e =>
          refine .inl ⟨modify_same hkeep ?_, by simp [Except.map]⟩
          rw [hr, task?_table, hr, Option.map_some, hrow]
          exact toOption_heldBy hread
        | ok t =>
          refine .inr ⟨t, ?_, wins_table hr hc hread⟩
          simp only [hc, if_true]
          rfl
      · have hrow : TableStore.claimRow worker now r = r := if_neg hc
        refine .inl ⟨modify_same hkeep ?_, ?_⟩
        · rw [hr, task?_table, hr, Option.map_some, hrow]
        · intro t
          rw [hrow]
          cases r.toTask <;> simp [Except.map, hc]

end Store

/-! ## Calls beside these -/

/-- The call neither changes a task nor stores one. -/
def Call.isQuery : Call → Bool
  | .get _ | .list _ | .snapshot | .claimable _ _ | .writeMarker _ | .readMarker
  | .heartbeatMarker _ | .recordFatal _ | .fatalIssue => true
  | _ => false

namespace Store

/-- A task that is stored under a fresh id leaves the others alone. -/
theorem task?_create {s : Store} {id i : TaskId} (hi : i ≠ id) (new : NewTask)
    (maxAttempts : UInt32) (now : Instant) :
    (s.create id new maxAttempts now).2.task? i = s.task? i := by
  cases s with
  | memory m =>
    show (memory (m.create id new maxAttempts now).2).task? i = _
    rw [task?_memory, task?_memory, MemoryStore.find?_create, if_neg hi, Option.or_none]
  | table s =>
    show (table (s.create id new maxAttempts now).2).task? i = _
    have hother : ¬(Row.ofTask (Task.create id new maxAttempts now)).id.same (.text i) := by
      rw [Cell.same_text]
      intro h
      exact hi (Cell.text.inj h).symm
    have hrow : (s.create id new maxAttempts now).2.row? i = s.row? i := by
      show (s.rows ++ [_]).find? _ = s.rows.find? _
      rw [List.find?_append, List.find?_singleton, if_neg hother, Option.or_none]
    rw [task?_table, task?_table, hrow]

theorem ids_create (s : Store) (id : TaskId) (new : NewTask) (maxAttempts : UInt32)
    (now : Instant) : (s.create id new maxAttempts now).2.ids = s.ids ++ [id] := by
  cases s with
  | memory m => exact List.map_append
  | table s => exact List.filterMap_append

theorem same_of_rows {s s' : TableStore} (h : s'.rows = s.rows) : (table s).Same (table s') := by
  refine ⟨by rw [ids, ids, h], ?_⟩
  funext i
  rw [task?_table, task?_table, TableStore.row?, TableStore.row?, h]

theorem same_heartbeatMarker (s : Store) (beat : Instant) : s.Same (s.heartbeatMarker beat).2 := by
  cases s with
  | memory m => exact ⟨rfl, rfl⟩
  | table s => exact same_of_rows (TableStore.rows_heartbeatMarker s beat)

theorem same_perform (s : Store) {c : Call} (h : c.isQuery = true) (now : Instant) :
    s.Same (s.perform now c).2 := by
  cases c with
  | get | list | snapshot | claimable | readMarker | fatalIssue => exact .refl s
  | heartbeatMarker beat => exact same_heartbeatMarker s beat
  | writeMarker marker | recordFatal issue =>
    cases s with
    | memory m => exact ⟨rfl, rfl⟩
    | table s => exact same_of_rows (TableStore.rows_putRecord _ _ _)
  | _ => cases h

end Store

end TaskPipeline
