import TaskPipeline.Executor.Gateway

/-!
# What launches leave of the executors

A launch counts once, for the executor of its type, and the end of an attempt counts no launch. Both
leave the executors of the other types alone.
-/

namespace TaskPipeline

namespace Registry

variable {α β : Type} [DecidableEq α]

theorem lookup_cons (key k : α) (b : β) (xs : List (α × β)) :
    ((key, b) :: xs).lookup k = if k = key then some b else xs.lookup k := by
  by_cases h : k = key
  · subst h
    rw [List.lookup_cons_self, if_pos rfl]
  · rw [List.lookup_cons, beq_false_of_ne h, if_neg h]

theorem lookup_put (key k : α) (b : β) (xs : List (α × β)) :
    (put key b xs).lookup k = if k = key then some b else xs.lookup k := by
  induction xs with
  | nil => exact lookup_cons key k b []
  | cons x xs ih =>
    obtain ⟨k₀, a⟩ := x
    simp only [put]
    split
    · next hkey =>
      subst hkey
      rw [lookup_cons, lookup_cons]
      split <;> rfl
    · next hkey =>
      rw [lookup_cons, lookup_cons, ih]
      by_cases h : k = k₀
      · subst h
        rw [if_pos rfl, if_neg hkey, if_pos rfl]
      · rw [if_neg h, if_neg h]

end Registry

/-- An attempt is over by its limit. -/
theorem Attempt.overAt_le (a : Attempt) : a.overAt ≤ a.startedAt + a.limit := by
  unfold overAt
  cases a.endsAt with
  | none => exact Nat.le_refl _
  | some t => exact Nat.min_le_right _ _

namespace Gateway

variable {type : TaskType}

theorem executor?_setExecutor (g : Gateway) (of type : TaskType) (e : Executor) :
    (g.setExecutor of e).registry.executor? type =
      if type = of then some e else g.registry.executor? type :=
  Registry.lookup_put of type e _

theorem executor?_launch_ne {t : Task} (h : type ≠ t.taskType) (g : Gateway) (clock : Nat) :
    (g.launch t clock).2.registry.executor? type = g.registry.executor? type := by
  unfold launch
  split
  · rfl
  · exact (executor?_setExecutor g _ _ _).trans (if_neg h)

theorem executor?_finish_ne {a : Attempt} (h : type ≠ a.task.taskType) (g : Gateway) :
    (g.finish a).2.registry.executor? type = g.registry.executor? type := by
  unfold finish
  split
  · rfl
  · dsimp only
    split
    · exact (executor?_setExecutor g _ _ _).trans (if_neg h)
    · rfl

/-! ## Time limits -/

/-- The greatest of the time limits. -/
def maxLimit (g : Gateway) : Span :=
  (g.defaultLimit :: g.registry.limits.map (·.2)).foldl max 0

theorem maxLimit_launch (g : Gateway) (t : Task) (clock : Nat) :
    (g.launch t clock).2.maxLimit = g.maxLimit := by
  unfold launch
  split <;> rfl

theorem maxLimit_finish (g : Gateway) (a : Attempt) : (g.finish a).2.maxLimit = g.maxLimit := by
  unfold finish
  split
  · rfl
  · dsimp only
    split <;> rfl

theorem limitOf_le (g : Gateway) (type : TaskType) : g.limitOf type ≤ g.maxLimit := by
  have hle : ∀ (spans : List Nat) (least : Nat), least ≤ spans.foldl max least ∧
      ∀ s ∈ spans, s ≤ spans.foldl max least := by
    intro spans
    induction spans with
    | nil => simp
    | cons s spans ih =>
      intro least
      obtain ⟨hleast, hspans⟩ := ih (max least s)
      refine ⟨Nat.le_trans (Nat.le_max_left _ _) hleast, fun x hx => ?_⟩
      rcases List.mem_cons.mp hx with rfl | hx
      · exact Nat.le_trans (Nat.le_max_right _ _) hleast
      · exact hspans x hx
  refine (hle (g.defaultLimit :: g.registry.limits.map (·.2)) 0).2 _ ?_
  unfold limitOf
  cases h : g.registry.limits.lookup type with
  | none => exact List.mem_cons_self
  | some limit =>
    obtain ⟨before, after, hlimits, _⟩ := List.lookup_eq_some_iff.mp h
    rw [hlimits]
    simp

/-! ## Counting launches -/

/-- How often an executor of a type has been launched. -/
def launchesOf (g : Gateway) (type : TaskType) : Nat :=
  (g.registry.executor? type).elim 0 (·.launched)

theorem launchesOf_setExecutor (g : Gateway) (of type : TaskType) (e : Executor) :
    (g.setExecutor of e).launchesOf type = if type = of then e.launched else g.launchesOf type := by
  rw [launchesOf, executor?_setExecutor]
  split <;> rfl

/-- A launch with an executor. -/
theorem launch_some {g : Gateway} {t : Task} {e : Executor}
    (h : g.registry.executor? t.taskType = some e) (clock : Nat) :
    ∃ a g', g.launch t clock = (.ok a, g') ∧ a.task = t ∧
      a.overAt ≤ clock + g.limitOf t.taskType ∧
      ∀ type, g'.launchesOf type = g.launchesOf type + if type = t.taskType then 1 else 0 := by
  simp only [launch, h]
  refine ⟨_, _, rfl, rfl, Attempt.overAt_le _, fun type => ?_⟩
  rw [launchesOf_setExecutor]
  split
  · next htype => rw [htype, launchesOf, h]; rfl
  · rfl

/-- A launch without an executor fails at once. -/
theorem launch_none {g : Gateway} {t : Task} (h : g.registry.executor? t.taskType = none)
    (clock : Nat) : ∃ outcome, g.launch t clock = (.error outcome, g) := by
  simp only [launch, h]
  exact ⟨_, rfl⟩

theorem launchesOf_finish (g : Gateway) (a : Attempt) (type : TaskType) :
    (g.finish a).2.launchesOf type = g.launchesOf type := by
  unfold finish
  split
  · rfl
  · next e he =>
    dsimp only
    split
    · refine (launchesOf_setExecutor g _ type _).trans ?_
      split
      · next htype => rw [htype, launchesOf, he]; rfl
      · rfl
    · rfl

end Gateway

end TaskPipeline
