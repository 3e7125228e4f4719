import TaskPipeline.Proofs.Store.Content
import TaskPipeline.Proofs.Store.Query
import TaskPipeline.Supervisor.State

/-!
# What is kept is read back

Whatever the pipeline keeps is kept as text and machine integers: the columns of a row, the records
beside the tasks, the JSON of a task, and the state file of the supervisor. The writer and the
reader of each agree about every value that they are given (`persisted_reads_back`), but for the
context of a task, which anyone may fill: it has to be storable.
-/

namespace TaskPipeline

open Json

/-! ## Contexts -/

/-- How deep a context may nest. -/
def contextDepth : Nat := 100

/-- The context is absent, or a value other than null, without doubles and with its members in
order, that does not nest too deep. -/
def Task.Storable (t : Task) : Prop :=
  ∀ c, t.context = some c → c ≠ .null ∧ c.canonical = some c ∧ Plain contextDepth c

/-- What a task keeps for life is the same in both. -/
structure Task.SameWork (t u : Task) : Prop where
  id : u.id = t.id
  taskType : u.taskType = t.taskType
  direction : u.direction = t.direction
  context : u.context = t.context
  createdAt : u.createdAt = t.createdAt

theorem Task.Storable.legible {t : Task} (h : t.Storable) : Row.Legible t.context := by
  intro c hc
  obtain ⟨_, hcanonical, hplain⟩ := h c hc
  rw [Row.freeForm?, parse_toText (hplain.mono (by decide))]
  exact hcanonical

/-! ## Rows -/

namespace TableStore

variable {s : TableStore} {t u : Task}

/-- A task that is stored under an id of its own is loaded as it is. -/
theorem load_insert (h : Row.Legible t.context) (hfresh : s.row? t.id = none) :
    (s.insert t).load t.id = .ok t := by
  have hrow : (s.insert t).row? t.id = some (Row.ofTask t) := by
    show (s.rows ++ [Row.ofTask t]).find? _ = _
    have hself : ((Row.ofTask t).id.same (.text t.id)) = true := Cell.same_text.mpr rfl
    rw [List.find?_append, show s.rows.find? _ = none from hfresh, Option.none_or,
      List.find?_singleton, if_pos hself]
  simp only [load, hrow, Row.toTask_ofTask, Task.reread_legible h]

/-- A task that is written back over one with the same work is loaded as it is. -/
theorem load_save (h : t.SameWork u) (hload : s.load t.id = .ok t) :
    (s.save u).load u.id = .ok u :=
  Store.load_eq_ok.mpr (puts_save (Store.load_eq_ok.mp hload)
    ⟨h.id, h.taskType, h.direction, h.context, h.createdAt⟩).self

end TableStore

/-! ## Tasks -/

theorem TaskType.ofJson?_toJson (x : TaskType) : ofJson? x.toJson = some x := by
  cases x <;> rfl

theorem TaskStatus.ofJson?_toJson (x : TaskStatus) : ofJson? x.toJson = some x := by
  cases x <;> rfl

namespace Task

theorem slots_toJson (t : Task) : t.toJson.slots fields = some
    [("id", .given (.str t.id)), ("task_type", .given t.taskType.toJson),
      ("direction", .given (.str t.direction)),
      ("context", (t.context.map Slot.given).getD .omitted),
      ("status", .given t.status.toJson), ("attempt_count", .given (ofUInt32 t.attemptCount)),
      ("max_attempts", .given (ofUInt32 t.maxAttempts)),
      ("last_failure_category",
        .given (ofOption FailureCategory.toJson t.lastFailureCategory)),
      ("retry_reflections", .given (.arr (t.reflections.map Reflection.toJson))),
      ("claimed_by", .given (ofOption .str t.claimedBy)),
      ("next_attempt_at", .given (ofOption ofInt64 t.nextAttemptAt)),
      ("cancelled", .given (.bool t.cancelled)), ("output", .given (ofOption .str t.output)),
      ("created_at", .given (ofInt64 t.createdAt)),
      ("updated_at", .given (ofInt64 t.updatedAt))] := by
  obtain ⟨id, type, direction, context, _⟩ := t
  cases context <;> rfl

/-- The context is left out if there is none, and null would read as none. -/
theorem withDefault_context {t : Task} (h : t.Storable) {s : Slots}
    (hs : s.get "context" = (t.context.map Slot.given).getD .omitted) :
    s.withDefault "context" none (asOption asFreeForm) = some t.context := by
  rw [Slots.withDefault, hs]
  cases hc : t.context with
  | none => rfl
  | some c =>
    obtain ⟨hnull, hcanonical, _⟩ := h c hc
    exact (asOption_of_ne_null asFreeForm hnull).trans (congrArg _ hcanonical)

theorem ofJson?_toJson {t : Task} (h : t.Storable) : ofJson? t.toJson = some t := by
  unfold ofJson?
  refine bind_of_eq_some (slots_toJson t) ?_
  refine bind_of_eq_some (a := t.id) rfl ?_
  refine bind_of_eq_some (Slots.required_of_get rfl t.taskType.ofJson?_toJson) ?_
  refine bind_of_eq_some (a := t.direction) rfl ?_
  refine bind_of_eq_some (withDefault_context h rfl) ?_
  refine bind_of_eq_some (Slots.required_of_get rfl t.status.ofJson?_toJson) ?_
  refine bind_of_eq_some (Slots.required_of_get rfl (asUInt32_ofUInt32 t.attemptCount)) ?_
  refine bind_of_eq_some (Slots.required_of_get rfl (asUInt32_ofUInt32 t.maxAttempts)) ?_
  refine bind_of_eq_some (Slots.optional_of_get rfl
    (asOption_ofOption FailureCategory.toJson FailureCategory.ofJson?_toJson
      (fun _ h => nomatch h) t.lastFailureCategory)) ?_
  refine bind_of_eq_some (a := t.reflections) (Reflection.mapM_ofJson?_toJson t.reflections) ?_
  refine bind_of_eq_some (Slots.optional_of_get rfl (asOption_ofOption_str t.claimedBy)) ?_
  refine bind_of_eq_some (a := t.nextAttemptAt) (asOption_ofOption_int64 t.nextAttemptAt) ?_
  refine bind_of_eq_some (a := t.cancelled) rfl ?_
  refine bind_of_eq_some (Slots.optional_of_get rfl (asOption_ofOption_str t.output)) ?_
  refine bind_of_eq_some (Slots.required_of_get rfl (asInt64_ofInt64 t.createdAt)) ?_
  exact bind_of_eq_some (Slots.required_of_get rfl (asInt64_ofInt64 t.updatedAt)) rfl

theorem plain_toJson {t : Task} (h : t.Storable) : Plain maxDepth t.toJson := by
  have hcategory : Plain 126 (ofOption FailureCategory.toJson t.lastFailureCategory) :=
    plain_ofOption (fun _ => by simp only [FailureCategory.toJson, Plain]) _
  have hnext : Plain 126 (ofOption ofInt64 t.nextAttemptAt) :=
    plain_ofOption (plain_ofInt64 126) _
  have hreflections := Reflection.plainItems_toJson 124 t.reflections
  simp only [toJson, maxDepth, Plain, TaskType.toJson, TaskStatus.toJson]
  cases hc : t.context with
  | none =>
    simp only [List.cons_append, List.nil_append, PlainMembers, Plain, plain_ofUInt32,
      plain_ofInt64, plain_ofOption_str, hcategory, hnext, hreflections, and_self]
  | some c =>
    have hcontext : Plain 126 c := (h c hc).2.2.mono (by decide)
    simp only [List.cons_append, List.nil_append, PlainMembers, Plain, plain_ofUInt32,
      plain_ofInt64, plain_ofOption_str, hcategory, hnext, hreflections, hcontext, and_self]

theorem read_toText {t : Task} (h : t.Storable) :
    (parse? t.toJson.toText).bind ofJson? = some t := by
  rw [parse_toText (plain_toJson h), Option.bind_some, ofJson?_toJson h]

end Task

/-! ## The state of the supervisor -/

namespace SupervisorState

theorem slots_toJson (s : SupervisorState) : s.toJson.slots fields = some
    [("restart_count", .given (ofUInt32 s.restartCount)),
      ("last_known_version", .given (ofOption .str s.lastKnownVersion)),
      ("last_restart_at", .given (ofOption ofInt64 s.lastRestartAt)),
      ("last_restart_reason", .given (ofOption .str s.lastRestartReason)),
      ("consecutive_probe_failures", .given (ofUInt32 s.consecutiveProbeFailures)),
      ("healthy_since", .given (ofOption ofInt64 s.healthySince)),
      ("fatal", .given (.bool s.fatal))] := rfl

theorem ofJson?_toJson (s : SupervisorState) : ofJson? s.toJson = some s := by
  unfold ofJson?
  refine bind_of_eq_some (slots_toJson s) ?_
  refine bind_of_eq_some (Slots.required_of_get rfl (asUInt32_ofUInt32 s.restartCount)) ?_
  refine bind_of_eq_some (Slots.optional_of_get rfl (asOption_ofOption_str s.lastKnownVersion)) ?_
  refine bind_of_eq_some (Slots.optional_of_get rfl (asOption_ofOption_int64 s.lastRestartAt)) ?_
  refine bind_of_eq_some (Slots.optional_of_get rfl (asOption_ofOption_str s.lastRestartReason)) ?_
  refine bind_of_eq_some
    (Slots.required_of_get rfl (asUInt32_ofUInt32 s.consecutiveProbeFailures)) ?_
  refine bind_of_eq_some (Slots.optional_of_get rfl (asOption_ofOption_int64 s.healthySince)) ?_
  exact bind_of_eq_some (a := s.fatal) rfl rfl

theorem plain_toJson (s : SupervisorState) : Plain maxDepth s.toJson := by
  have hinstant : ∀ o, Plain 126 (ofOption ofInt64 o) := plain_ofOption (plain_ofInt64 126)
  simp only [toJson, maxDepth, Plain, PlainMembers, plain_ofUInt32, plain_ofOption_str, hinstant,
    and_self]

theorem read_toText (s : SupervisorState) :
    (parse? s.toJson.toText).bind ofJson? = some s := by
  rw [parse_toText (plain_toJson s), Option.bind_some, ofJson?_toJson]

theorem ofFile?_fileText (s : SupervisorState) : ofFile? (some s.fileText) = some s :=
  bind_of_eq_some (parse_toPrettyText (plain_toJson s)) (ofJson?_toJson s)

/-- The file that was written beside is what stands at the path afterwards. -/
theorem save_path (s : SupervisorState) (path : String) (files : Files) :
    s.save path files path = some s.fileText := by
  rw [save, Files.rename, if_pos rfl, Files.write, if_pos rfl]

theorem load_saved (s : SupervisorState) (path : String) (files : Files) :
    load path (s.save path files) = some s := by
  rw [load, save_path, ofFile?_fileText]

end SupervisorState

/-! ## All that is kept -/

/-- **What is kept is read back as it was.** A task with a storable context is loaded from the row
that was inserted for it, and after every save of a task with the same work that task is; the JSON
text of a task, of the marker, of the fatal issue and of the state of the supervisor is read as the
same value, and so is a state file, whatever lay at its path and beside it. -/
theorem persisted_reads_back :
    (∀ (s : TableStore) (t : Task), t.Storable → s.row? t.id = none →
      (s.insert t).load t.id = .ok t) ∧
    (∀ (s : TableStore) (t u : Task), s.load t.id = .ok t → t.SameWork u →
      (s.save u).load u.id = .ok u) ∧
    (∀ t : Task, t.Storable → (parse? t.toJson.toText).bind Task.ofJson? = some t) ∧
    (∀ m : PipelineMarker, (parse? m.toJson.toText).bind PipelineMarker.ofJson? = some m) ∧
    (∀ f : FatalIssue, (parse? f.toJson.toText).bind FatalIssue.ofJson? = some f) ∧
    (∀ s : SupervisorState, (parse? s.toJson.toText).bind SupervisorState.ofJson? = some s) ∧
    ∀ (s : SupervisorState) (path : String) (files : Files),
      SupervisorState.load path (s.save path files) = some s :=
  ⟨fun _ _ h hfresh => TableStore.load_insert h.legible hfresh,
    fun _ _ _ hload hwork => TableStore.load_save hwork hload,
    fun _ h => Task.read_toText h, PipelineMarker.read_toText, FatalIssue.read_toText,
    SupervisorState.read_toText, SupervisorState.load_saved⟩

/-- A task that has failed once, with a context of several kinds of values. -/
def retriedTask : Task where
  id := "t1"
  taskType := .impl
  direction := "build \"it\"\n"
  context := some (.obj [("a", .arr [.num (.int (-3)), .null]), ("b", .str "é\t")])
  status := .pending
  attemptCount := 1
  maxAttempts := 3
  lastFailureCategory := some .timeout
  reflections := [⟨1, .timeout, "slow", "wait", "\x1b[0m", -5⟩]
  claimedBy := none
  nextAttemptAt := some 60000
  cancelled := false
  output := none
  createdAt := -9223372036854775808
  updatedAt := 0

theorem retriedTask_storable : retriedTask.Storable := by
  intro c hc
  cases hc
  refine ⟨nofun, rfl, ?_⟩
  simp only [contextDepth, Plain, PlainMembers, PlainItems, Fits, and_true]
  decide

/-- The retried task is stored, and cancelled while it waits. -/
theorem persisted_reads_back_retried :
    (TableStore.load (.insert {} retriedTask) "t1" = .ok retriedTask) ∧
    (TableStore.load (.save (.insert {} retriedTask) { retriedTask with cancelled := true }) "t1" =
      .ok { retriedTask with cancelled := true }) ∧
    (parse? retriedTask.toJson.toText).bind Task.ofJson? = some retriedTask :=
  have hload := persisted_reads_back.1 {} retriedTask retriedTask_storable rfl
  ⟨hload, persisted_reads_back.2.1 _ retriedTask { retriedTask with cancelled := true } hload
    ⟨rfl, rfl, rfl, rfl, rfl⟩, persisted_reads_back.2.2.1 retriedTask retriedTask_storable⟩

end TaskPipeline
