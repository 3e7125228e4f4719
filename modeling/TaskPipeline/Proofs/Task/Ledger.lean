import TaskPipeline.Proofs.Task.Life
import TaskPipeline.Proofs.Text.Blank

/-!
# The ledger of failures

A task keeps one reflection for each attempt that failed, in the order of the attempts. Three paths
write one: a decision, a reclaim of a running task, and nothing else. `Ledger` says what the
reflections of a task satisfy in each status and `Timed` that their instants follow the clock. Main
statement: `failures_on_record`.
-/

namespace TaskPipeline

/-- A reflection says what went wrong, what to do, and what was seen. -/
def Reflection.Explained (r : Reflection) : Prop :=
  r.blindSpot ≠ "" ∧ r.nextAction ≠ "" ∧ r.failureExcerpt ≠ ""

/-! ## What policies write -/

theorem FailureCategory.rule_explained (c : FailureCategory) :
    c.rule.blindSpot ≠ "" ∧ c.rule.nextAction ≠ "" := by
  cases c <;> exact ⟨by decide, by decide⟩

theorem Task.explained_lostAttempt (t : Task) (now : Instant) : (t.lostAttempt now).Explained := by
  simp [Reflection.Explained, lostAttempt]

/-- The text of a failure is never blank. -/
theorem Outcome.exists_not_isBlank_failureText (o : Outcome) :
    ∃ c ∈ o.failureText.toList, Text.isBlank c = false := by
  unfold failureText
  dsimp only
  split
  · next h => exact Text.exists_not_isBlank_trim h
  · split
    · next h => exact Text.exists_not_isBlank_trim h
    · exact ⟨'e', by decide, by decide⟩

namespace RetryPolicy

variable {t : Task} {outcome : Outcome} {now : Instant} {r : Reflection}

theorem explained_reflectionOn : (reflectionOn t outcome now).Explained := by
  obtain ⟨hb, hn⟩ := (categoryOf outcome).rule_explained
  have he := Text.excerpt_ne_empty outcome.exists_not_isBlank_failureText
  simp only [Reflection.Explained, reflectionOn]
  exact ⟨hb, hn, he⟩

theorem explained_ambiguity (h : outcome.isAmbiguous = true) :
    (ambiguity t outcome now).Explained := by
  refine ⟨by simp [ambiguity], by simp [ambiguity], Text.excerpt_ne_empty ?_⟩
  simp only [Outcome.isAmbiguous, Bool.and_eq_true] at h
  obtain ⟨-, h⟩ := h
  cases he : outcome.error with
  | none => rw [he] at h; cases h
  | some e =>
    rw [he] at h
    simpa [Text.isBlankText] using h

/-- **A policy reflects on the attempt it judges, now, and leaves nothing out.** -/
theorem reflection_decide {policy : RetryPolicy}
    (h : (policy.decide t outcome now).reflection? = some r) :
    r.attemptNumber = t.attemptCount ∧ r.timestamp = now ∧ r.Explained := by
  unfold decide at h
  dsimp only at h
  split at h
  · next ha => cases h; exact ⟨rfl, rfl, explained_ambiguity ha⟩
  split at h
  · cases h
  have hr : r = reflectionOn t outcome now := by
    split at h
    · cases h; rfl
    split at h
    · split at h <;> (cases h; rfl)
    · cases h; rfl
  subst hr
  exact ⟨rfl, rfl, explained_reflectionOn⟩

end RetryPolicy

/-! ## The reflections of a task -/

/-- The attempt that has not failed: the one that runs, or the last one of a completed task. -/
def Task.unfailed (t : Task) : Nat := if t.status = .running ∨ t.status = .completed then 1 else 0

structure Ledger (t : Task) : Prop where
  numbers : t.reflections.map (·.attemptNumber.toNat) = List.range' 1 t.reflections.length
  count : t.reflections.length + t.unfailed = t.attemptCount.toNat
  explained : ∀ r ∈ t.reflections, r.Explained
  last : t.lastFailureCategory =
    if t.status = .completed then none else t.reflections.getLast?.map (·.category)
  given : t.status = .failed ∨ t.status = .needsDecision → t.reflections ≠ []

theorem ledger_create (id : TaskId) (new : NewTask) (asked : UInt32) (now : Instant) :
    Ledger (Task.create id new asked now) :=
  ⟨rfl, rfl, fun _ h => (nomatch h), rfl, fun h => by simp [Task.create] at h⟩

variable {t u : Task} {op : Operation} {now : Instant}

/-- An operation that neither opens nor ends an attempt keeps the ledger. -/
theorem Ledger.keep (h : Ledger t) (hr : u.reflections = t.reflections)
    (hl : u.lastFailureCategory = t.lastFailureCategory) (ha : u.attemptCount = t.attemptCount)
    (hu : u.unfailed = t.unfailed) (hc : u.status = .completed ↔ t.status = .completed)
    (hg : u.status = .failed ∨ u.status = .needsDecision →
      t.status = .failed ∨ t.status = .needsDecision) : Ledger u where
  numbers := by rw [hr]; exact h.numbers
  count := by rw [hr, ha, hu]; exact h.count
  explained := by rw [hr]; exact h.explained
  last := by rw [hr, hl, h.last]; simp only [hc]
  given := by rw [hr]; exact fun hs => h.given (hg hs)

/-- An attempt that ends in a failure leaves its reflection behind. -/
theorem Ledger.note (h : Ledger t) (hs : t.status = .running) {r : Reflection}
    (hn : r.attemptNumber = t.attemptCount) (he : r.Explained)
    (hr : u.reflections = t.reflections ++ [r]) (hl : u.lastFailureCategory = some r.category)
    (ha : u.attemptCount = t.attemptCount) (hu : u.unfailed = 0) (hc : u.status ≠ .completed) :
    Ledger u where
  numbers := by
    have hlen : r.attemptNumber.toNat = 1 + t.reflections.length := by
      have := h.count
      rw [Task.unfailed, if_pos (.inl hs)] at this
      rw [hn]; omega
    rw [hr, List.map_append, h.numbers, List.map_singleton, hlen, List.length_append,
      List.length_singleton, List.range'_concat, Nat.one_mul]
  count := by
    have := h.count
    rw [Task.unfailed, if_pos (.inl hs)] at this
    rw [hr, ha, hu, List.length_append]
    exact this
  explained := by
    intro x hx
    rw [hr] at hx
    rcases List.mem_append.mp hx with hx | hx
    · exact h.explained x hx
    · rw [List.mem_singleton.mp hx]; exact he
  last := by rw [if_neg hc, hl, hr, List.getLast?_concat]; rfl
  given := fun _ => by rw [hr]; exact List.concat_ne_nil _ _

theorem Ledger.moves (h : Ledger t) (hm : t.Moves now op u)
    (hset : ∀ decision r, op = .settle t.attemptCount decision → t.status = .running →
      decision.reflection? = some r → r.attemptNumber = t.attemptCount ∧ r.Explained) :
    Ledger u := by
  cases hm with
  | claim worker hc =>
    have hs := Task.pending_of_isClaimable hc
    exact h.keep rfl rfl rfl (by simp [Task.unfailed, hs]) (by simp [hs]) (by simp)
  | start worker hs hw hlt =>
    have hcount := h.count
    rw [Task.unfailed, hs] at hcount
    refine ⟨h.numbers, ?_, h.explained, ?_, fun hg => by simp at hg⟩
    · simp only [Task.unfailed, Task.toNat_succ hlt]
      simp at hcount ⊢; omega
    · rw [h.last]; simp [hs]
  | touch | late | cancel => exact h.keep rfl rfl rfl rfl Iff.rfl id
  | complete output hs =>
    have hcount := h.count
    rw [Task.unfailed, if_pos (.inl hs)] at hcount
    exact ⟨h.numbers, hcount, h.explained, rfl, fun hg => by simp at hg⟩
  | retry r delay next hs hd =>
    obtain ⟨hn, he⟩ := hset _ r rfl hs rfl
    exact h.note hs hn he rfl rfl rfl rfl (by simp)
  | fail r hs =>
    obtain ⟨hn, he⟩ := hset _ r rfl hs rfl
    exact h.note hs hn he rfl rfl rfl rfl (by simp)
  | escalate r hs =>
    obtain ⟨hn, he⟩ := hset _ r rfl hs rfl
    exact h.note hs hn he rfl rfl rfl rfl (by simp)
  | resume output hs hlt | dismiss output hs | reopen hs hlt | release hs | expire hs =>
    exact h.keep rfl rfl rfl (by simp [Task.unfailed, hs]) (by simp [hs]) (by simp [hs])
  | requeue hs hle | abandon hs hlt =>
    exact h.note hs rfl (Task.explained_lostAttempt t now) rfl rfl rfl rfl (by simp)

/-! ## Instants -/

namespace Life

/-- What is written bears an instant between the start of its attempt and the clock. -/
structure Timed (l : Life) (clock : Instant) : Prop where
  past : ∀ r ∈ l.task.reflections, r.timestamp ≤ clock
  sorted : l.task.reflections.Pairwise fun a b => a.timestamp ≤ b.timestamp
  opened : ∀ s ∈ l.opened, s.updatedAt ≤ clock ∧ ∀ r ∈ s.reflections, r.timestamp ≤ s.updatedAt
  made : ∀ e ∈ l.decided, ∀ r, e.2.reflection? = some r →
    r.timestamp ≤ clock ∧ ∃ s ∈ l.opened, s.attemptCount = e.1 ∧ s.updatedAt ≤ r.timestamp

theorem timed_begin (id : TaskId) (new : NewTask) (asked : UInt32) (now : Instant) :
    Timed (begin id new asked now) now :=
  ⟨fun _ h => (nomatch h), .nil, fun _ h => (nomatch h), fun _ h => (nomatch h)⟩

variable {l m : Life} {clock : Instant} {deed : Deed}

theorem Timed.wait (h : Timed l clock) (hc : clock ≤ now) : Timed l now where
  past := fun r hr => Int64.le_trans (h.past r hr) hc
  sorted := h.sorted
  opened := fun s hs => ⟨Int64.le_trans (h.opened s hs).1 hc, (h.opened s hs).2⟩
  made := by
    intro e he r hr
    obtain ⟨ht, hs⟩ := h.made e he r hr
    exact ⟨Int64.le_trans ht hc, hs⟩

/-- A reflection that is written now is not older than those before it: a reclaim's bears the
present, and a decision's an instant after the start of the attempt, which followed them all. -/
theorem Timed.ready (h : Timed l clock) (ht : Traced l) (hr : l.task.status = .running)
    {decision : Decision} (hd : (l.task.attemptCount, decision) ∈ l.decided) {r : Reflection}
    (he : decision.reflection? = some r) :
    r.timestamp ≤ clock ∧ ∀ x ∈ l.task.reflections, x.timestamp ≤ r.timestamp := by
  obtain ⟨hle, s, hs, hk, hsr⟩ := h.made _ hd r he
  obtain ⟨s', hs', heq⟩ := ht.current hr
  have hss : s = s' := ht.opened_unique hs hs' (by rw [hk, heq])
  refine ⟨hle, fun x hx => Int64.le_trans ?_ hsr⟩
  rw [heq] at hx
  exact (h.opened s hs).2 x (hss ▸ hx)

/-- Moving the task and opening attempts with it, when the reflections follow the clock. -/
theorem Timed.move (h : Timed l clock) {u : Task} {starts : List Task}
    (hp : ∀ r ∈ u.reflections, r.timestamp ≤ clock)
    (hs : u.reflections.Pairwise fun a b => a.timestamp ≤ b.timestamp)
    (ho : ∀ s ∈ starts, s = u ∧ u.updatedAt = clock) :
    Timed { l with task := u, opened := l.opened ++ starts } clock where
  past := hp
  sorted := hs
  opened := by
    intro s hm
    rcases List.mem_append.mp hm with hm | hm
    · exact h.opened s hm
    · obtain ⟨rfl, hu⟩ := ho s hm
      exact ⟨hu ▸ Int64.le_refl _, fun r hr => hu ▸ hp r hr⟩
  made := by
    intro e he r hr
    obtain ⟨hle, s, hm, hrest⟩ := h.made e he r hr
    exact ⟨hle, s, List.mem_append_left _ hm, hrest⟩

theorem Timed.reflect (h : Timed l clock) {u : Task} {r : Reflection}
    (hu : u.reflections = l.task.reflections ++ [r]) (hr : r.timestamp ≤ clock)
    (hx : ∀ x ∈ l.task.reflections, x.timestamp ≤ r.timestamp) :
    Timed { l with task := u, opened := l.opened ++ [] } clock := by
  refine h.move ?_ ?_ (fun s hs => (nomatch hs))
  · intro x hm
    rw [hu] at hm
    rcases List.mem_append.mp hm with hm | hm
    · exact h.past x hm
    · rw [List.mem_singleton.mp hm]; exact hr
  · rw [hu, List.pairwise_append]
    exact ⟨h.sorted, List.pairwise_singleton _ _, fun a ha b hb => by
      rw [List.mem_singleton.mp hb]; exact hx a ha⟩

theorem Timed.moves (h : Timed l now) (ht : Traced l) (hb : l.Backs op)
    (hm : l.task.Moves now op u) :
    Timed { l with task := u, opened := l.opened ++ op.opens u } now := by
  cases hm with
  | retry r delay next hs hd =>
    obtain ⟨hr, hx⟩ := h.ready ht hs hb rfl
    exact h.reflect rfl hr hx
  | fail r hs | escalate r hs =>
    obtain ⟨hr, hx⟩ := h.ready ht hs hb rfl
    exact h.reflect rfl hr hx
  | requeue | abandon => exact h.reflect rfl (Int64.le_refl _) h.past
  | start worker hs hw hlt =>
    exact h.move h.past h.sorted fun s hm => ⟨List.mem_singleton.mp hm, rfl⟩
  | _ => exact h.move h.past h.sorted fun s hm => (nomatch hm)

theorem Timed.steps (h : Timed l clock) (ht : Traced l) (hc : clock ≤ now)
    (hs : Steps now l deed m) : Timed m now := by
  have hw := h.wait hc
  cases hs with
  | refused => exact hw
  | moved hb _ hm => exact hw.moves ht hb hm
  | judged policy outcome hs =>
    refine ⟨hw.past, hw.sorted, hw.opened, ?_⟩
    intro e he r hr
    rcases List.mem_append.mp he with he | he
    · exact hw.made e he r hr
    · rw [List.mem_singleton.mp he] at hr ⊢
      obtain ⟨-, htime, -⟩ := RetryPolicy.reflection_decide hr
      exact ⟨htime ▸ Int64.le_refl _, _, hs, rfl, htime ▸ (hw.opened _ hs).1⟩

/-! ## Whole lives -/

theorem ledger_steps (h : Traced l ∧ Ledger l.task) (hs : Steps now l deed m) :
    Traced m ∧ Ledger m.task := by
  refine ⟨h.1.steps hs, ?_⟩
  cases hs with
  | refused => exact h.2
  | judged => exact h.2
  | moved hb _ hm =>
    refine h.2.moves hm ?_
    intro decision r ho hr he
    subst ho
    obtain ⟨policy, outcome, at', rfl⟩ := h.1.decision hr hb
    obtain ⟨hn, -, hx⟩ := RetryPolicy.reflection_decide he
    exact ⟨hn, hx⟩

/-- Along a clock that never goes back everything that is written follows it. -/
theorem timed_run : ∀ {l : Life} {clock : Instant} (history : List (Instant × Deed)), Traced l →
    Timed l clock → (clock :: history.map (·.1)).Pairwise (· ≤ ·) →
    ∃ now, Timed (l.run history) now
  | _, clock, [], _, h, _ => ⟨clock, h⟩
  | l, clock, e :: rest, ht, h, hc => by
    rw [List.map_cons, List.pairwise_cons] at hc
    have hs := steps_step l e.1 e.2
    exact timed_run rest (ht.steps hs) (h.steps ht (hc.1 e.1 (List.mem_cons_self ..)) hs) hc.2

/-- **Every failed attempt is on record, once and in its place.** Whatever is done to a task in
whatever order, with decisions recorded late or again: the attempts of its reflections are
`1, 2, …, k`, where `k` leaves out the attempt that runs or succeeded and no other; each reflection
says something; their instants follow the clock; and the last one gives the category of the last
failure, which only a completed task has forgotten. A task that failed or waits for a decision has
one. -/
theorem failures_on_record (id : TaskId) (new : NewTask) (asked : UInt32) (born : Instant)
    (history : List (Instant × Deed)) (hclock : (born :: history.map (·.1)).Pairwise (· ≤ ·)) :
    let t := ((begin id new asked born).run history).task
    t.reflections.map (·.attemptNumber.toNat) =
      List.range' 1 (if t.status = .running ∨ t.status = .completed then t.attemptCount.toNat - 1
        else t.attemptCount.toNat) ∧
    (∀ r ∈ t.reflections, r.blindSpot ≠ "" ∧ r.nextAction ≠ "" ∧ r.failureExcerpt ≠ "") ∧
    t.reflections.Pairwise (fun a b => a.timestamp ≤ b.timestamp) ∧
    t.lastFailureCategory =
      (if t.status = .completed then none else t.lastReflection.map (·.category)) ∧
    (t.status = .failed ∨ t.status = .needsDecision →
      ∃ r, t.lastReflection = some r ∧ t.lastFailureCategory = some r.category) := by
  intro t
  have ht := traced_begin id new asked born
  obtain ⟨-, hl⟩ : Traced ((begin id new asked born).run history) ∧ Ledger t :=
    run_keeps ⟨ht, ledger_create id new asked born⟩ ledger_steps history
  obtain ⟨_, htime⟩ := timed_run history ht (timed_begin id new asked born) hclock
  refine ⟨?_, hl.explained, htime.sorted, hl.last, fun hs => ?_⟩
  · rw [hl.numbers]
    congr 1
    have hcount := hl.count
    rw [Task.unfailed] at hcount
    split
    · next ho => rw [if_pos ho] at hcount; omega
    · next ho => rw [if_neg ho] at hcount; omega
  · obtain ⟨r, hr⟩ := Option.isSome_iff_exists.mp
      (List.getLast?_isSome.mpr (hl.given hs))
    refine ⟨r, hr, ?_⟩
    rw [hl.last, if_neg (by rcases hs with hs | hs <;> simp [hs]), hr]
    rfl

/-- A budget of one attempt: two workers fall silent one after the other, and the second takes the
grace attempt with it. -/
theorem failures_on_record_twice_lost :
    let history : List (Instant × Deed) :=
      [(1, .operate (.claim "w1")), (2, .operate (.start "w1")), (9, .operate .reclaim),
        (9, .operate (.claim "w2")), (10, .operate (.start "w2")), (20, .operate .reclaim)]
    let t := ((begin "t" ⟨.impl, "x", none, none⟩ 1 0).run history).task
    ((0 :: history.map (·.1)).Pairwise (· ≤ ·)) ∧ t.status = .failed ∧
      t.reflections.map (·.attemptNumber.toNat) = [1, 2] := by
  intro history t
  have hclock : (0 :: history.map (·.1)).Pairwise (· ≤ ·) := by decide
  refine ⟨hclock, by decide, ?_⟩
  exact (failures_on_record "t" ⟨.impl, "x", none, none⟩ 1 0 history hclock).1.trans (by decide)

end Life

end TaskPipeline
