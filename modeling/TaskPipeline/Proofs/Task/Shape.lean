import TaskPipeline.Proofs.Task.Budget

/-!
# The shape of a task

Some operations rely on fields that they do not clear: a resolution never looks at whether the task
was withdrawn, and a reclaim or a withdrawal leaves the instant of the next attempt as it is.
`Shape` is what all of them together keep, whatever the decisions are. From it follows that a task
which is put back from outside can be claimed at once and has an attempt left. Main statement:
`granted_at_once`.
-/

namespace TaskPipeline

namespace Task

/-- Which fields are filled in which status. -/
structure Shape (t : Task) : Prop where
  holder : t.claimedBy.isSome = t.status.isHeld
  withdrawn : t.cancelled = true → t.status = .pending
  delayed : t.nextAttemptAt.isSome = true → t.status = .pending ∨ t.status = .claimed
  output : t.status = .completed → t.output.isSome = true

theorem shape_create (id : TaskId) (new : NewTask) (asked : UInt32) (now : Instant) :
    (create id new asked now).Shape :=
  ⟨rfl, fun _ => rfl, fun _ => .inl rfl, nofun⟩

variable {t u : Task} {op : Operation} {now : Instant}

/-- A task that is past its claim is neither withdrawn nor put off. -/
theorem Shape.cleared (h : t.Shape) (hp : t.status ≠ .pending) (hc : t.status ≠ .claimed) :
    t.cancelled = false ∧ t.nextAttemptAt = none := by
  constructor
  · exact Bool.eq_false_iff.mpr fun hx => hp (h.withdrawn hx)
  · exact Option.not_isSome_iff_eq_none.mp fun hn => (h.delayed hn).elim hp hc

/-- A task that waits for someone or is done with is held by nobody. -/
theorem Shape.not_held (h : t.Shape) (hs : t.status.isHeld = false) : t.claimedBy.isSome = false :=
  h.holder.trans hs

theorem not_withdrawn_of_isClaimable (h : t.isClaimable now = true) : t.cancelled = false := by
  simp only [isClaimable, Bool.and_eq_true, Bool.not_eq_true'] at h
  exact h.1.2

/-- **Every operation keeps the shape**, a decision by whomever included. -/
theorem Shape.moves (h : t.Shape) (hm : t.Moves now op u) : u.Shape := by
  cases hm with
  | claim worker hc =>
    have hx := not_withdrawn_of_isClaimable hc
    exact ⟨rfl, by simp [hx], fun _ => .inr rfl, nofun⟩
  | start worker hs hw hlt =>
    have hx : t.cancelled = false := Bool.eq_false_iff.mpr fun hx => by simp [h.withdrawn hx] at hs
    exact ⟨by rw [hw]; rfl, by simp [hx], nofun, nofun⟩
  | touch | late => exact ⟨h.holder, h.withdrawn, h.delayed, h.output⟩
  | complete output hs =>
    obtain ⟨hx, hn⟩ := h.cleared (by simp [hs]) (by simp [hs])
    exact ⟨rfl, by simp [hx], by simp [hn], fun _ => rfl⟩
  | retry r delay next hs hd => exact ⟨rfl, fun _ => rfl, fun _ => .inl rfl, nofun⟩
  | fail r hs | escalate r hs | abandon hs =>
    obtain ⟨hx, hn⟩ := h.cleared (by simp [hs]) (by simp [hs])
    exact ⟨rfl, by simp [reflect, hx], by simp [reflect, hn], nofun⟩
  | resume output hs hlt =>
    exact ⟨h.not_held (by rw [hs]; rfl), fun _ => rfl, nofun, nofun⟩
  | reopen hs hlt => exact ⟨h.not_held (by rw [hs]; rfl), nofun, nofun, nofun⟩
  | dismiss output hs | expire hs =>
    obtain ⟨hx, hn⟩ := h.cleared (by simp [hs]) (by simp [hs])
    exact ⟨h.not_held (by rw [hs]; rfl), by simp [hx], by simp [hn], nofun⟩
  | cancel hs hc => exact ⟨h.holder, fun _ => hs, h.delayed, h.output⟩
  | release hs | requeue hs => exact ⟨rfl, fun _ => rfl, fun _ => .inl rfl, nofun⟩

/-- An outside decision that puts a task back leaves it room for an attempt. -/
theorem room_granted (h : t.attemptCount.toNat + 1 < UInt32.size) :
    t.attemptCount < max t.maxAttempts (t.attemptCount + 1) := by
  rw [UInt32.lt_iff_toNat_lt, toNat_max, toNat_succ h]
  omega

/-- What is put back from outside can be claimed at any instant and has an attempt left. -/
theorem Shape.granted (h : t.Shape) (hop : op.Regrants) (hm : t.Moves now op u) :
    (∀ instant, u.isClaimable instant = true) ∧ u.attemptCount < u.maxAttempts := by
  cases hm with
  | resume output hs hlt =>
    -- Nothing clears the withdrawal here: it is the shape that excludes it.
    obtain ⟨hx, _⟩ := h.cleared (by simp [hs]) (by simp [hs])
    exact ⟨fun instant => by simp [isClaimable, hx], room_granted hlt⟩
  | reopen hs hlt => exact ⟨fun instant => by simp [isClaimable], room_granted hlt⟩
  | _ => cases hop

end Task

namespace Life

/-- **What is put back from outside can be claimed at once**, whatever was done to the task before.
A holder is noted exactly while the task is claimed or running; only a pending task is withdrawn;
only a pending or claimed one has an instant of its next attempt; a completed one has its output.
So a task that is resolved to pending or reopened may be claimed at any instant, and has an attempt
left. -/
theorem granted_at_once (id : TaskId) (new : NewTask) (asked : UInt32) (born : Instant)
    (history : List (Instant × Deed)) :
    let t := ((begin id new asked born).run history).task
    (t.claimedBy.isSome = true ↔ t.status = .claimed ∨ t.status = .running) ∧
    (t.cancelled = true → t.status = .pending) ∧
    (t.nextAttemptAt.isSome = true → t.status = .pending ∨ t.status = .claimed) ∧
    (t.status = .completed → t.output.isSome = true) ∧
    ∀ op now u, op.Regrants → t.apply op now = .ok u →
      (∀ instant, u.isClaimable instant = true) ∧ u.attemptCount < u.maxAttempts := by
  intro t
  have h : t.Shape := run_keeps (P := fun l => l.task.Shape) (Task.shape_create id new asked born)
    (fun h hs => by cases hs with
      | refused | judged => exact h
      | moved _ _ hm => exact h.moves hm) history
  refine ⟨?_, h.withdrawn, h.delayed, h.output, fun op now u hop hu =>
    h.granted hop (Task.moves_of_apply hu)⟩
  rw [h.holder]
  cases t.status <;> simp [TaskStatus.isHeld]

end Life

end TaskPipeline
