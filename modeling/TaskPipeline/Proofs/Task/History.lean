import TaskPipeline.Proofs.Store.Passage

/-!
# The history of a task only grows

A task walks along `TaskStatus.diagram`, at most one edge an operation, and what it remembers
follows from the edges it has walked: the attempts count how often it began to run, the reflections
how often it was left running without success. Main statements: `history_grows` for one operation
on any task, reachable or not, and `history_grows_on` for any operations in a row; a stored task
grows in the same way under every call of its store (`Store.grows_perform`).
-/

namespace TaskPipeline

/-- From where a task stood to where it stands. -/
abbrev StatusEdge := TaskStatus × TaskStatus

/-- The edges that a task may walk. -/
def TaskStatus.diagram : List StatusEdge :=
  [(.pending, .claimed), (.claimed, .running),
    (.running, .pending), (.running, .completed), (.running, .failed), (.running, .needsDecision),
    (.needsDecision, .pending), (.needsDecision, .failed),
    (.failed, .pending), (.claimed, .pending)]

namespace StatusEdge

/-- An attempt is opened. -/
def opens (e : StatusEdge) : Bool := e = (.claimed, .running)

/-- A running task is left, but not to completed: there is something to reflect on. -/
def disappoints (e : StatusEdge) : Bool :=
  e.1 = .running && e.2 ≠ .running && e.2 ≠ .completed

@[simp] theorem opens_self (s : TaskStatus) : opens (s, s) = false := by cases s <;> rfl

@[simp] theorem disappoints_self (s : TaskStatus) : disappoints (s, s) = false := by
  cases s <;> rfl

end StatusEdge

namespace Task

/-- The task after an operation; one that is refused leaves it as it is. -/
def after (t : Task) (op : Operation) (now : Instant) : Task :=
  match t.apply op now with
  | .ok u => u
  | .error _ => t

/-- The operation is refused, or it is a decision about an attempt that is settled already. -/
inductive InVain (now : Instant) (t : Task) : Operation → Prop where
  | refused {op : Operation} {e : Fault} : t.apply op now = .error e → InVain now t op
  | duplicate {attempt : UInt32} {decision : Decision} {u : Task} :
      t.settle attempt decision now = .ok (.duplicate, u) →
      InVain now t (.settle attempt decision)

/-- What the edges that a task has walked from `t` to `u` say of the two. An operation that does
not change the status walks from it to itself. -/
structure Grows (edges : List StatusEdge) (t u : Task) : Prop where
  onDiagram : ∀ e ∈ edges, e.2 = e.1 ∨ e ∈ TaskStatus.diagram
  attemptCount : u.attemptCount.toNat = t.attemptCount.toNat + edges.countP (·.opens)
  maxAttempts : t.maxAttempts ≤ u.maxAttempts
  reflections : ∃ new, u.reflections = t.reflections ++ new ∧
    new.length = edges.countP (·.disappoints)
  id : u.id = t.id
  taskType : u.taskType = t.taskType
  direction : u.direction = t.direction
  context : u.context = t.context
  createdAt : u.createdAt = t.createdAt

variable {t u v : Task} {now : Instant} {op : Operation}

/-! ## One operation -/

theorem Moves.onDiagram (h : t.Moves now op u) :
    u.status = t.status ∨ (t.status, u.status) ∈ TaskStatus.diagram := by
  cases h with
  | touch | late | cancel => exact .inl rfl
  | claim worker hc =>
    rw [pending_of_isClaimable hc]
    exact .inr (by simp [TaskStatus.diagram])
  | _ => exact .inr (by simp [TaskStatus.diagram, *])

theorem Moves.opens (h : t.Moves now op u) : u.attemptCount.toNat =
    t.attemptCount.toNat + if StatusEdge.opens (t.status, u.status) then 1 else 0 := by
  cases h with
  | start worker hs hw hlt =>
    rw [hs]
    exact toNat_succ hlt
  | touch | late | cancel => simp
  | claim worker hc =>
    rw [pending_of_isClaimable hc]
    rfl
  | _ => simp [StatusEdge.opens, reflect, *]

theorem Moves.maxAttempts_le (h : t.Moves now op u) : t.maxAttempts ≤ u.maxAttempts := by
  cases h with
  | resume | reopen =>
    refine UInt32.le_iff_toNat_le.mpr ?_
    rw [toNat_max]
    exact Nat.le_max_left _ _
  | _ => exact UInt32.le_refl _

theorem Moves.reflections (h : t.Moves now op u) : ∃ new, u.reflections = t.reflections ++ new ∧
    new.length = if StatusEdge.disappoints (t.status, u.status) then 1 else 0 := by
  cases h with
  | retry r | fail r | escalate r => exact ⟨[r], rfl, by simp [StatusEdge.disappoints, *]⟩
  | requeue | abandon => exact ⟨[t.lostAttempt now], rfl, by simp [StatusEdge.disappoints, *]⟩
  | touch | late | cancel => exact ⟨[], by simp, by simp⟩
  | claim worker hc =>
    rw [pending_of_isClaimable hc]
    exact ⟨[], by simp, rfl⟩
  | _ => exact ⟨[], by simp, by simp [StatusEdge.disappoints, *]⟩

theorem Moves.grows (h : t.Moves now op u) : t.Grows [(t.status, u.status)] u := by
  obtain ⟨hid, htype, hdirection, hcontext, hcreated⟩ := h.keeps
  exact {
    onDiagram := by simpa using h.onDiagram
    attemptCount := by simpa [List.countP_cons] using h.opens
    maxAttempts := h.maxAttempts_le
    reflections := by simpa [List.countP_cons] using h.reflections
    id := hid
    taskType := htype
    direction := hdirection
    context := hcontext
    createdAt := hcreated }

/-- Nothing happened. -/
theorem Grows.still (t : Task) : t.Grows [(t.status, t.status)] t where
  onDiagram := by simp
  attemptCount := by simp
  maxAttempts := UInt32.le_refl _
  reflections := ⟨[], by simp, by simp⟩
  id := rfl
  taskType := rfl
  direction := rfl
  context := rfl
  createdAt := rfl

theorem grows_after (t : Task) (op : Operation) (now : Instant) :
    t.Grows [(t.status, (t.after op now).status)] (t.after op now) := by
  unfold after
  split
  · next u hu => exact (moves_of_apply hu).grows
  · exact .still t

theorem InVain.after (h : t.InVain now op) : t.after op now = t := by
  cases h with
  | refused he => rw [Task.after, he]
  | duplicate hd =>
    obtain ⟨_, ⟨_, hlate⟩ | ⟨happlied, _⟩⟩ := settle_eq_ok hd
    · rw [Task.after, apply, settle_late hlate]
      rfl
    · cases happlied

/-- **The history of a task is monotone and stays on the diagram**, whatever is asked of which
task. What is asked in vain changes nothing. -/
theorem history_grows (t : Task) (op : Operation) (now : Instant) :
    t.Grows [(t.status, (t.after op now).status)] (t.after op now) ∧
      (t.InVain now op → t.after op now = t) :=
  ⟨grows_after t op now, InVain.after⟩

/-! ## Operations in a row -/

theorem Grows.refl (t : Task) : t.Grows [] t where
  onDiagram := nofun
  attemptCount := rfl
  maxAttempts := UInt32.le_refl _
  reflections := ⟨[], by simp, rfl⟩
  id := rfl
  taskType := rfl
  direction := rfl
  context := rfl
  createdAt := rfl

theorem Grows.trans {walked further : List StatusEdge} (h : t.Grows walked u)
    (h' : u.Grows further v) : t.Grows (walked ++ further) v where
  onDiagram := fun e he => (List.mem_append.mp he).elim (h.onDiagram e) (h'.onDiagram e)
  attemptCount := by
    rw [h'.attemptCount, h.attemptCount, List.countP_append, Nat.add_assoc]
  maxAttempts := UInt32.le_trans h.maxAttempts h'.maxAttempts
  reflections := by
    obtain ⟨new, hnew, hlength⟩ := h.reflections
    obtain ⟨new', hnew', hlength'⟩ := h'.reflections
    refine ⟨new ++ new', by rw [hnew', hnew, List.append_assoc], ?_⟩
    rw [List.length_append, hlength, hlength', List.countP_append]
  id := h'.id.trans h.id
  taskType := h'.taskType.trans h.taskType
  direction := h'.direction.trans h.direction
  context := h'.context.trans h.context
  createdAt := h'.createdAt.trans h.createdAt

/-- The task after operations at instants. -/
def afterAll (t : Task) (ops : List (Instant × Operation)) : Task :=
  ops.foldl (fun t e => t.after e.2 e.1) t

/-- The edges that a task walks under operations at instants. -/
def path (t : Task) : List (Instant × Operation) → List StatusEdge
  | [] => []
  | e :: rest => (t.status, (t.after e.2 e.1).status) :: (t.after e.2 e.1).path rest

/-- **What a task remembers is what its path says**, over any operations in a row. -/
theorem history_grows_on (t : Task) (ops : List (Instant × Operation)) :
    t.Grows (t.path ops) (t.afterAll ops) := by
  induction ops generalizing t with
  | nil => exact .refl t
  | cons e rest ih => exact (grows_after t e.2 e.1).trans (ih (t.after e.2 e.1))

end Task

/-! ## Calls of a store -/

namespace Store

variable {s : Store} {t : Task} {id : TaskId}

/-- No call loses a task that can be read, and none rewrites its history. -/
theorem grows_perform (hk : s.Keyed) (c : Call)
    (hnew : ∀ i new asked, c = .create i new asked → i ∉ s.ids) (now : Instant)
    (ht : s.task? id = some t) :
    ∃ u, (s.perform now c).2.task? id = some u ∧ t.Grows [(t.status, u.status)] u := by
  have hpasses := passes_perform hk c hnew now id
  rw [ht] at hpasses
  generalize (s.perform now c).2.task? id = w at hpasses
  cases hpasses with
  | stays => exact ⟨t, rfl, .still t⟩
  | moves _ hmoves => exact ⟨_, rfl, hmoves.grows⟩

end Store

end TaskPipeline
