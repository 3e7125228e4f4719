import TaskPipeline.Proofs.Http.Handle

/-!
# Any number of requests

Requests come one after another, each with its own configuration, clock reading and fresh id.
What one of them can do to a task is a deed (`serves_handle`), so that nothing which a worker holds,
or has completed, is ever touched by them, and no count of attempts (`spares_serveAll`). Main
statement: `requests_atomic`. What is answered about a new task is not always what a table keeps of
it (`answered_not_stored`).
-/

namespace TaskPipeline

namespace Store

/-- What is read stays, but for outside decisions: no count of attempts changes, and nothing about
a task that is claimed, running or completed. -/
def Spares (s s' : Store) : Prop :=
  ∀ id t, s.task? id = some t → ∃ u, s'.task? id = some u ∧ u.attemptCount = t.attemptCount ∧
    (t.status = .claimed ∨ t.status = .running ∨ t.status = .completed → u = t)

theorem Spares.refl (s : Store) : s.Spares s := fun _ t ht => ⟨t, ht, rfl, fun _ => rfl⟩

theorem Spares.trans {s₁ s₂ s₃ : Store} (h : s₁.Spares s₂) (h' : s₂.Spares s₃) :
    s₁.Spares s₃ := by
  intro id t ht
  obtain ⟨u, hu, hcount, hsame⟩ := h id t ht
  obtain ⟨v, hv, hcount', hsame'⟩ := h' id u hu
  refine ⟨v, hv, hcount'.trans hcount, ?_⟩
  intro hs
  obtain rfl := hsame hs
  exact hsame' hs

theorem Replaces.spares {s s' : Store} {t u : Task} (h : s.Replaces u s')
    (ht : s.task? u.id = some t) (hcount : u.attemptCount = t.attemptCount)
    (hopen : ¬(t.status = .claimed ∨ t.status = .running ∨ t.status = .completed)) :
    s.Spares s' := by
  intro id v hv
  by_cases hid : id = u.id
  · subst hid
    cases ht.symm.trans hv
    exact ⟨u, h.puts.self, hcount, fun hs => absurd hs hopen⟩
  · exact ⟨v, (h.puts.other hid).trans hv, rfl, fun _ => rfl⟩

theorem Gains.spares {s s' : Store} {u : Task} (h : s.Gains u s') : s.Spares s' := by
  intro id v hv
  have hid : id ≠ u.id := by
    rintro rfl
    exact h.unused (mem_ids_of_task? hv)
  rw [h.task?, Function.update_of_ne hid]
  exact ⟨v, hv, rfl, fun _ => rfl⟩

end Store

namespace Http

/-! ## The attempts of a new task -/

/-- A task is as it was requested, and as the policy has it where the request leaves it open. -/
structure Admitted (p : RetryPolicy) (new : NewTask) (u : Task) : Prop where
  direction : u.direction = new.direction
  notBlank : Text.isBlankText u.direction = false
  requested : ∀ n, new.maxAttempts = some n → u.maxAttempts = n
  byType : new.maxAttempts = none → ∀ n, p.maxAttemptsByType.lookup new.taskType = some n →
    u.maxAttempts = max n 1
  default : new.maxAttempts = none → p.maxAttemptsByType.lookup new.taskType = none →
    u.maxAttempts = max p.defaultMaxAttempts 1
  pos : 1 ≤ u.maxAttempts

theorem toNat_max_one (n : UInt32) : (max n 1).toNat = max n.toNat 1 := Task.toNat_max n 1

theorem max_one_max (n : UInt32) : max (max n 1) 1 = max n 1 := by
  rw [← UInt32.toNat_inj, toNat_max_one, toNat_max_one]
  omega

theorem max_one_of_ne_zero {n : UInt32} (h : n ≠ 0) : max n 1 = n := by
  have hn : n.toNat ≠ 0 := fun h0 => h (UInt32.toNat_inj.mp h0)
  rw [← UInt32.toNat_inj, toNat_max_one]
  omega

theorem admitted_create {p : RetryPolicy} {new : NewTask} {r : Request}
    (hread : readNewTask r = .ok new) (id : TaskId) (now : Instant) :
    Admitted p new (Task.create id new (p.maxAttemptsFor new.taskType new.maxAttempts) now) := by
  obtain ⟨-, hblank, hzero⟩ := readNewTask_eq_ok hread
  have hmax : ∀ n, (new.maxAttempts <|> p.maxAttemptsByType.lookup new.taskType).getD
      p.defaultMaxAttempts = n →
      (Task.create id new (p.maxAttemptsFor new.taskType new.maxAttempts) now).maxAttempts =
        max n 1 := by
    rintro n rfl
    exact max_one_max _
  refine ⟨rfl, hblank, ?_, ?_, ?_, ?_⟩
  · intro n hn
    rw [hmax n (by rw [hn]; rfl), max_one_of_ne_zero]
    rintro rfl
    exact hzero hn
  · intro hnone n hn
    exact hmax n (by rw [hnone, hn]; rfl)
  · intro hnone hlookup
    exact hmax _ (by rw [hnone, hlookup]; rfl)
  · rw [hmax _ rfl, UInt32.le_iff_toNat_le, toNat_max_one]
    exact Nat.le_max_right _ _

/-! ## Requests in a row -/

/-- A request with what it is handled by: the configuration, a fresh id and the clock. -/
structure Visit where
  api : Api
  request : Request
  fresh : TaskId
  now : Instant

/-- The answer to a visit, and the store afterwards. -/
def Visit.serve (v : Visit) (s : Store) : Handled :=
  v.api.handle s v.request v.fresh v.now

/-- The store after visits, one after another. -/
def serveAll (s : Store) (visits : List Visit) : Store :=
  visits.foldl (fun s v => (v.serve s).2) s

/-- Each visit has an id of its own, and none of these ids is in use. -/
structure Unused (s : Store) (visits : List Visit) : Prop where
  distinct : (visits.map (·.fresh)).Nodup
  unused : ∀ v ∈ visits, v.fresh ∉ s.ids

section Visits

variable {s : Store} {v : Visit} {visits : List Visit}

theorem Does.ids {a : Api} {r : Request} {fresh : TaskId} {now : Instant} {deed : Deed} {u : Task}
    {s' : Store} (h : Does a r fresh now s deed u s') : ∀ id ∈ s'.ids, id ∈ s.ids ∨ id = fresh := by
  cases h with
  | create _ _ _ hgains =>
    intro id hid
    rw [hgains.ids] at hid
    exact (List.mem_append.mp hid).imp_right List.mem_singleton.mp
  | decide _ _ _ _ _ _ hr | cancel _ _ _ _ _ _ hr | reopen _ _ _ _ _ hr =>
    intro id hid
    rw [hr.puts.ids] at hid
    exact .inl hid

theorem Does.spares {a : Api} {r : Request} {fresh : TaskId} {now : Instant} {deed : Deed}
    {u : Task} {s' : Store} (h : Does a r fresh now s deed u s') : s.Spares s' := by
  cases h with
  | create _ _ _ hgains => exact hgains.spares
  | decide _ _ _ ht hs hmoves hr | reopen _ _ ht hs hmoves hr =>
    exact hr.spares ht (by cases hmoves <;> rfl) (by simp [hs])
  | cancel _ _ ht hs _ hmoves hr => exact hr.spares ht (by cases hmoves; rfl) (by simp [hs])

theorem serves_visit (h : v.fresh ∉ s.ids) :
    Serves v.api s v.request v.fresh v.now (v.serve s) := serves_handle h

/-- What one visit leaves: the tasks that are no one else's to decide, and the ids there were. -/
theorem spares_visit (h : v.fresh ∉ s.ids) :
    s.Spares (v.serve s).2 ∧ ∀ id ∈ (v.serve s).2.ids, id ∈ s.ids ∨ id = v.fresh := by
  have hserves := serves_visit h
  generalize v.serve s = step at hserves
  cases hserves with
  | keeps => exact ⟨.refl s, fun _ => .inl⟩
  | does _ _ hdoes => exact ⟨hdoes.spares, hdoes.ids⟩

theorem Unused.tail (h : Unused s (v :: visits)) : Unused (v.serve s).2 visits := by
  obtain ⟨hnotin, hdistinct⟩ := List.nodup_cons.mp h.distinct
  refine ⟨hdistinct, ?_⟩
  intro w hw hid
  rcases (spares_visit (h.unused v (List.mem_cons_self ..))).2 _ hid with hold | heq
  · exact h.unused w (List.mem_cons_of_mem _ hw) hold
  · exact hnotin (List.mem_map.mpr ⟨w, hw, heq⟩)

/-- After the first visits, the rest still bring fresh ids. -/
theorem Unused.drop {before after : List Visit} (h : Unused s (before ++ after)) :
    Unused (serveAll s before) after := by
  induction before generalizing s with
  | nil => exact h
  | cons v before ih => exact ih h.tail

/-- **No sequence of requests touches what is claimed, running or completed, or a count of
attempts.** -/
theorem spares_serveAll (h : Unused s visits) : s.Spares (serveAll s visits) := by
  induction visits generalizing s with
  | nil => exact .refl s
  | cons v visits ih =>
    exact (spares_visit (h.unused v (List.mem_cons_self ..))).1.trans (ih h.tail)

/-! ## Main statement -/

/-- The task that a deed leaves is read as it is afterwards: from memory always, and from a table
unless it was just made with a context that is not read back as it was written. Only a context with
a double in it can be such. -/
theorem Does.stored {a : Api} {r : Request} {fresh : TaskId} {now : Instant} {deed : Deed}
    {u : Task} {s' : Store} (h : Does a r fresh now s deed u s')
    (hkept : (∃ m, s = .memory m) ∨ deed ≠ .create ∨ Row.Legible u.context ∨
      ∀ c, u.context = some c → c.isExact = true) :
    s'.task? u.id = some u := by
  cases h with
  | @create new _ _ _ hnew hgains =>
    have hlegible : (∃ m, s = .memory m) ∨ Row.Legible new.context := by
      rcases hkept with hmemory | hne | hlegible | hexact
      · exact .inl hmemory
      · exact absurd rfl hne
      · exact .inr hlegible
      · exact .inr (legible_readNewTask hnew hexact)
    rw [hgains.task?, Function.update_self, Store.read_eq_ok hlegible]
    rfl
  | decide _ _ _ _ _ _ hr | cancel _ _ _ _ _ _ hr | reopen _ _ _ _ _ hr => exact hr.puts.self

/-- **Requests are safe and atomic.** For any content of a store of either kind, and any requests
in a row: one that only reads, or that is not answered with success, changes nothing at all, nor
does one whose handler panics. One of the others that succeeds has done exactly one deed to one task
and left everything else as it was. Its answer is the task, and that is what is read from now on;
the one exception is a task made in a table with a double in its context, where the double that was
written is not the one that is read. A new task is as requested, and as the policy has it where the
request leaves it open. No sequence of requests changes a task that is claimed, running or
completed, or any count of attempts. -/
theorem requests_atomic (s : Store) (visits : List Visit) (hfresh : Unused s visits) :
    (∀ before v after, visits = before ++ v :: after →
      let s₁ := serveAll s before
      let response := (v.serve s₁).1
      let s₂ := (v.serve s₁).2
      (¬v.request.Writes → s₂ = s₁) ∧
      ((∀ answer ∈ response, ¬answer.Succeeds) → s₂ = s₁) ∧
      (v.request.Writes → ∀ answer ∈ response, answer.Succeeds → ∃ u deed,
        answer.body = .json u.toJson ∧
        Does v.api v.request v.fresh v.now s₁ deed u s₂ ∧
        (∀ other, Does v.api v.request v.fresh v.now s₁ other u s₂ → other = deed) ∧
        ((∃ m, s₁ = .memory m) ∨ deed ≠ .create ∨ Row.Legible u.context ∨
            (∀ c, u.context = some c → c.isExact = true) →
          s₂.task? u.id = some u) ∧
        (deed = .create → ∃ new, readNewTask v.request = .ok new ∧
          Admitted v.api.policy new u))) ∧
    s.Spares (serveAll s visits) := by
  refine ⟨?_, spares_serveAll hfresh⟩
  rintro before v after rfl
  intro s₁ response s₂
  have hserves : Serves v.api s₁ v.request v.fresh v.now (response, s₂) :=
    serves_visit (hfresh.drop.unused v (List.mem_cons_self ..))
  generalize response = result at hserves ⊢
  generalize s₂ = left at hserves ⊢
  cases hserves with
  | keeps _ hfails =>
    exact ⟨fun _ => rfl, fun _ => rfl, fun hw answer ha hok => absurd hok (hfails hw answer ha)⟩
  | @does status deed u _ hwrites hok hdoes =>
    refine ⟨fun h => absurd hwrites h, fun h => absurd hok (h _ rfl), ?_⟩
    rintro _ _ ⟨⟩ _
    refine ⟨u, deed, rfl, hdoes, fun other h => h.unique hdoes, hdoes.stored, ?_⟩
    rintro rfl
    cases hdoes with
    | create _ _ hread _ => exact ⟨_, hread, admitted_create hread _ _⟩

end Visits

/-! ## On a table -/

/-- An interface over three attempts for every task. -/
def threefold : Api where
  policy := ⟨3, [], .ofSeconds 0, .ofSeconds 0, .ofSeconds 0⟩
  monitor := ⟨.ofSeconds 0, none⟩
  version := "1"
  workers := 1
  liveWorkers := 1

/-- A visit with a body in JSON. -/
def posting (path body : String) (fresh : TaskId) : Visit where
  api := threefold
  request := ⟨"POST", .ofText path, some "application/json", body⟩
  fresh := fresh
  now := 200

def running : Task :=
  { Task.create "r" ⟨.impl, "build", none, none⟩ 3 0 with
    status := .running, attemptCount := 1, claimedBy := some "w" }

/-- A table with a running task and one that has failed. -/
def busy : Store :=
  .table { rows := [Row.ofTask running, Row.ofTask { running with id := "f", status := .failed }] }

/-- The failed task is reopened, a task without a direction is turned down, and the running task
cannot be cancelled. -/
theorem requests_atomic_busy :
    let reopening := posting "/tasks/f/reopen" "" "x"
    let blank := posting "/tasks" "\x7b\"direction\":\" \",\"task_type\":\"impl\"\x7d" "y"
    let cancelling := posting "/tasks/r/cancel" "" "z"
    Unused busy [reopening, blank, cancelling] ∧
      (∃ answer ∈ (reopening.serve busy).1, ∃ u deed, answer.body = .json u.toJson ∧
        Does threefold reopening.request "x" 200 busy deed u (reopening.serve busy).2) ∧
      serveAll busy [reopening, blank] = serveAll busy [reopening] ∧
      (serveAll busy [reopening, blank, cancelling]).task? "r" = some running := by
  intro reopening blank cancelling
  have hfresh : Unused busy [reopening, blank, cancelling] := ⟨by decide, by decide⟩
  obtain ⟨hvisit, hspares⟩ := requests_atomic busy _ hfresh
  refine ⟨hfresh, ?_, ?_, ?_⟩
  · obtain ⟨answer, hanswer, hok⟩ :
        ∃ answer ∈ (reopening.serve busy).1, answer.Succeeds := by decide +kernel
    obtain ⟨u, deed, hbody, hdoes, _⟩ :=
      (hvisit [] reopening _ rfl).2.2 (.inl rfl) answer hanswer hok
    exact ⟨answer, hanswer, u, deed, hbody, hdoes⟩
  · exact (hvisit [reopening] blank _ rfl).2.1 (by decide +kernel)
  · obtain ⟨u, hu, _, hsame⟩ := hspares "r" running (by rfl)
    rw [hu, hsame (.inr (.inl rfl))]

/-- The bits of the double that a task in JSON has for its context. -/
def contextBits (j : Json) : Option UInt64 :=
  match j.get? "context" with
  | some (.num (.double bits)) => some bits
  | _ => none

/-- The same of the task that a response tells about. -/
def Response.contextBits (r : Response) : Option UInt64 :=
  match r.body with
  | .json j => Http.contextBits j
  | .text _ => none

/-- **What is answered about a new task is not always what is stored.** The text of a double is
not always read back as that double, and a table keeps the text. -/
theorem answered_not_stored :
    let visit := posting "/tasks"
      "\x7b\"task_type\":\"impl\",\"direction\":\"build\",\"context\":1.171347620860142e275\x7d" "a"
    let step := visit.serve (.table {})
    step.2.ids = ["a"] ∧ (step.2.task? "a").isSome ∧ ∃ answer ∈ step.1, answer.Succeeds ∧
      ∀ u, answer.body = .json u.toJson → step.2.task? u.id ≠ some u := by
  intro visit step
  obtain ⟨hids, hread, answer, hanswer, hok, hbits⟩ : step.2.ids = ["a"] ∧
      (step.2.task? "a").isSome ∧ ∃ answer ∈ step.1, answer.Succeeds ∧
      (step.2.task? "a").map (fun t => contextBits t.toJson) ≠ some answer.contextBits := by
    decide +kernel
  refine ⟨hids, hread, answer, hanswer, hok, ?_⟩
  intro u hbody hu
  have hid : u.id = "a" := by
    have hmem := Store.mem_ids_of_task? hu
    rw [hids] at hmem
    exact List.mem_singleton.mp hmem
  refine hbits ?_
  rw [← hid, hu, Response.contextBits, hbody]
  rfl

end Http

end TaskPipeline
