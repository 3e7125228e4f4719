import Mathlib.Data.List.Induction
import TaskPipeline.Proofs.Store.Step
import TaskPipeline.Proofs.Task.History

/-!
# Claims exclude each other, and each attempt is settled once

What is read under one id over a history of a store is a chain of steps (`linked_trace`), and
everything here is an induction along that chain: between two claims the task was put back, the
starts open the attempts one after the other, and an attempt that is over stays over
(`Over.step`). Main statement: `claims_exclusive`.
-/

namespace TaskPipeline

namespace Moment

/-- The task that a call finds under an id. -/
def was (m : Moment) (id : TaskId) : Option Task := m.before.task? id

/-- The task that a call leaves under an id. -/
def left (m : Moment) (id : TaskId) : Option Task := m.after.task? id

/-- A worker claims the task. -/
def Claims (m : Moment) (id : TaskId) (worker : WorkerId) : Prop :=
  m.call = .claim id worker ∧ ∃ t, m.reply = .ok (.claim (.claimed t))

/-- A worker opens an attempt of the task, which is then `t`. -/
def Starts (m : Moment) (id : TaskId) (worker : WorkerId) (t : Task) : Prop :=
  m.call = .start id worker ∧ m.reply = .ok (.task t)

/-- An attempt of the task is settled: its outcome is recorded, or it is taken from its worker. -/
def Settles (m : Moment) (id : TaskId) (attempt : UInt32) : Prop :=
  (∃ decision status t, m.call = .recordOutcome id attempt decision ∧
    m.reply = .ok (.settled (.transitioned status) t)) ∨
  ∃ cutoff reports t, m.call = .reclaimStale cutoff ∧ m.reply = .ok (.reclaimed reports) ∧
    id ∈ reports.map (·.1) ∧ m.was id = some t ∧ t.status = .running ∧ t.attemptCount = attempt

/-- The task is put back to pending. -/
def Requeues (m : Moment) (id : TaskId) : Prop :=
  ∃ t u, m.was id = some t ∧ t.status ≠ .pending ∧ m.left id = some u ∧ u.status = .pending

/-- The number of the attempt that a call opens, if it opens one of the task. -/
def opened? (m : Moment) (id : TaskId) : Option Nat :=
  match m.call, m.reply with
  | .start i _, .ok (.task t) => if i = id then some t.attemptCount.toNat else none
  | _, _ => none

/-- The call takes a step at the id. -/
def Steps (m : Moment) (id : TaskId) : Prop := Step id m.now m.call m.reply (m.was id) (m.left id)

end Moment

/-- A worker holds the task. -/
def Holds (worker : WorkerId) (v : Option Task) : Prop :=
  ∃ t, v = some t ∧ t.status.isHeld = true ∧ t.claimedBy = some worker

/-! ## One step -/

/-- A step leaves the task as it is, makes it, or moves it. -/
theorem Step.moves {id : TaskId} {now : Instant} {c : Call} {r : Answer Reply} {v w : Option Task}
    (h : Step id now c r v w) :
    v = w ∨ (∃ new asked, v = none ∧ w = some (Task.create id new asked now)) ∨
      ∃ op t u, v = some t ∧ w = some u ∧ t.Moves now op u := by
  cases h with
  | apart | missing | refused => exact .inl rfl
  | made new new' asked r => exact .inr (.inl ⟨new', asked, rfl, rfl⟩)
  | carried _ hc => exact .inr (.inr ⟨_, _, _, rfl, rfl, Task.moves_of_carry hc⟩)
  | reclaimed _ _ hr => exact .inr (.inr ⟨_, _, _, rfl, rfl, Task.reclaim_eq_ok hr⟩)
  | expired _ _ he =>
    exact .inr (.inr ⟨_, _, _, rfl, rfl, Task.expire_moves he⟩)

/-! ## Chains of steps -/

/-- The task that is read under an id after some calls. -/
def lastRead (id : TaskId) (v : Option Task) (ms : List Moment) : Option Task :=
  ms.foldl (fun _ m => m.left id) v

/-- Each call finds under the id what the one before it left, and takes a step from there. -/
def Linked (id : TaskId) : Option Task → List Moment → Prop
  | _, [] => True
  | v, m :: ms => m.was id = v ∧ m.Steps id ∧ Linked id (m.left id) ms

section Linked

variable {id : TaskId} {v : Option Task}

theorem linked_append {xs ys : List Moment} :
    Linked id v (xs ++ ys) ↔ Linked id v xs ∧ Linked id (lastRead id v xs) ys := by
  induction xs generalizing v with
  | nil => simp [Linked, lastRead]
  | cons m xs ih =>
    simp only [List.cons_append, Linked, ih, and_assoc]
    rfl

theorem Linked.mid {xs ys : List Moment} {m : Moment} (h : Linked id v (xs ++ m :: ys)) :
    m.was id = lastRead id v xs ∧ m.Steps id ∧ Linked id (m.left id) ys :=
  (linked_append.mp h).2

theorem Linked.steps {ms : List Moment} (h : Linked id v ms) : ∀ m ∈ ms, m.Steps id := by
  intro m hm
  obtain ⟨xs, ys, rfl⟩ := List.append_of_mem hm
  exact h.mid.2.1

/-- What every step keeps holds along a chain. -/
theorem Linked.keeps {P : Option Task → Prop} {ms : List Moment} (h : Linked id v ms)
    (hstep : ∀ m ∈ ms, m.Steps id → P (m.was id) → P (m.left id)) (hv : P v) :
    (∀ m ∈ ms, P (m.was id)) ∧ P (lastRead id v ms) := by
  induction ms generalizing v with
  | nil => exact ⟨fun _ h => (nomatch h), hv⟩
  | cons m ms ih =>
    obtain ⟨rfl, hm, hms⟩ := h
    have hleft := hstep m List.mem_cons_self hm hv
    obtain ⟨hall, hlast⟩ := ih hms (fun n hn => hstep n (List.mem_cons_of_mem _ hn)) hleft
    refine ⟨fun n hn => ?_, hlast⟩
    rcases List.mem_cons.mp hn with rfl | hn
    · exact hv
    · exact hall n hn

end Linked

section Steps

variable {id : TaskId} {m : Moment} {worker : WorkerId} {t u : Task}

/-- What a call asks of one task is either granted, or refused and nothing changes. -/
theorem Moment.Steps.asked (h : m.Steps id) {op : Operation} (hasks : m.call.asks = some (id, op)) :
    (∃ t q u, m.was id = some t ∧ t.carry op m.now = .ok (q, u) ∧ m.reply = .ok q ∧
      m.left id = some u) ∨
    m.left id = m.was id ∧ ((∃ t e fail, m.was id = some t ∧ t.carry op m.now = .error e ∧
      m.reply = op.refusal fail e) ∨ m.was id = none ∧ ∃ e, m.reply = .error e) := by
  unfold Moment.Steps at h
  generalize m.was id = v, m.left id = w at h ⊢
  obtain ⟨before, now, c, r, after⟩ := m
  cases h with
  | apart _ hother => exact absurd hasks (hother op)
  | made => cases hasks
  | missing e _ => exact .inr ⟨rfl, .inr ⟨rfl, e, rfl⟩⟩
  | refused fail hasks' hc =>
    rw [hasks] at hasks'
    cases hasks'
    exact .inr ⟨rfl, .inl ⟨_, _, fail, rfl, hc, rfl⟩⟩
  | carried hasks' hc =>
    rw [hasks] at hasks'
    cases hasks'
    exact .inl ⟨_, _, _, rfl, hc, rfl, rfl⟩
  | reclaimed => cases hasks
  | expired => cases hasks

/-- A call that is answered as no refusal is was granted. -/
theorem Moment.Steps.granted (h : m.Steps id) {op : Operation} {q : Reply}
    (hasks : m.call.asks = some (id, op)) (hreply : m.reply = .ok q)
    (hrefusal : ∀ fail e, op.refusal fail e ≠ .ok q) :
    ∃ t u, m.was id = some t ∧ t.carry op m.now = .ok (q, u) ∧ m.left id = some u := by
  rcases h.asked hasks with
    ⟨t, q', u, hwas, hcarry, hq, hleft⟩ | ⟨_, ⟨_, e, fail, _, _, hno⟩ | ⟨_, e, hno⟩⟩
  · rw [hreply] at hq
    cases hq
    exact ⟨t, u, hwas, hcarry, hleft⟩
  · exact absurd (hno.symm.trans hreply) (hrefusal fail e)
  · rw [hreply] at hno
    cases hno

/-- A claim that succeeds finds the task pending and leaves it in the hands of the worker. -/
theorem Moment.Steps.claims (h : m.Steps id) (hc : m.Claims id worker) :
    ∃ t, m.was id = some t ∧ t.status = .pending ∧
      m.left id = some (t.heldBy worker m.now) := by
  obtain ⟨hcall, t, hreply⟩ := hc
  have hasks : m.call.asks = some (id, .claim worker) := by rw [hcall]; rfl
  obtain ⟨t, u, hwas, hcarry, hleft⟩ := h.granted hasks hreply (by simp [Operation.refusal])
  cases Task.moves_of_carry hcarry with
  | claim _ hclaim => exact ⟨t, hwas, Task.pending_of_isClaimable hclaim, hleft⟩

end Steps

/-- A task that was not pending and is so now was put back on the way. -/
theorem Linked.requeued {id : TaskId} {v : Option Task} {ms : List Moment} (h : Linked id v ms)
    (hv : ∃ t, v = some t ∧ t.status ≠ .pending)
    (hlast : ∃ u, lastRead id v ms = some u ∧ u.status = .pending) :
    ∃ m ∈ ms, m.Requeues id := by
  induction ms generalizing v with
  | nil =>
    obtain ⟨t, rfl, ht⟩ := hv
    obtain ⟨u, hu, hp⟩ := hlast
    cases hu
    exact absurd hp ht
  | cons m ms ih =>
    obtain ⟨rfl, hm, hms⟩ := h
    obtain ⟨t, ht, hne⟩ := hv
    have hleft : ∃ u, m.left id = some u := by
      rcases Step.moves hm with he | ⟨_, _, hnone, _⟩ | ⟨_, _, u, _, hu, _⟩
      · exact ⟨t, he ▸ ht⟩
      · rw [ht] at hnone; cases hnone
      · exact ⟨u, hu⟩
    obtain ⟨u, hu⟩ := hleft
    by_cases hp : u.status = .pending
    · exact ⟨m, List.mem_cons_self, t, u, ht, hne, hu, hp⟩
    · obtain ⟨k, hk, hreq⟩ := ih hms ⟨u, hu, hp⟩ hlast
      exact ⟨k, List.mem_cons_of_mem _ hk, hreq⟩

/-! ## Attempts are opened one after the other -/

/-- The attempts that were opened of a task. -/
def attemptCount (v : Option Task) : Nat := (v.map fun t => t.attemptCount.toNat).getD 0

theorem Task.Moves.attemptCount {t u : Task} {now : Instant} {op : Operation}
    (h : t.Moves now op u) (hop : ∀ worker, op ≠ .start worker) :
    u.attemptCount = t.attemptCount := by
  cases h with
  | start worker => exact absurd rfl (hop worker)
  | _ => rfl

theorem Moment.opened?_eq_none {m : Moment} {id : TaskId}
    (h : ∀ worker t, m.call = .start id worker → m.reply ≠ .ok (.task t)) :
    m.opened? id = none := by
  unfold opened?
  split
  · next i worker t hcall hreply =>
    by_cases hi : i = id
    · exact absurd hreply (h worker t (hi ▸ hcall))
    · exact if_neg hi
  · rfl

/-- A start that succeeds finds the task claimed by the worker and opens its next attempt. -/
theorem Moment.Steps.starts {id : TaskId} {m : Moment} {worker : WorkerId} {u : Task}
    (h : m.Steps id) (hs : m.Starts id worker u) :
    ∃ t, m.was id = some t ∧ t.status = .claimed ∧ t.claimedBy = some worker ∧
      m.left id = some u ∧ u.status = .running ∧ u.claimedBy = some worker ∧
      u.attemptCount.toNat = t.attemptCount.toNat + 1 := by
  obtain ⟨hcall, hreply⟩ := hs
  have hasks : m.call.asks = some (id, .start worker) := by rw [hcall]; rfl
  obtain ⟨t, u', hwas, hcarry, hleft⟩ := h.granted hasks hreply (by simp [Operation.refusal])
  have hu : u' = u := by
    obtain ⟨v, _, hv⟩ := Task.map_eq_ok.mp hcarry
    cases hv
    rfl
  subst hu
  cases Task.moves_of_carry hcarry with
  | start _ hs hw hlt => exact ⟨t, hwas, hs, hw, hleft, rfl, hw, Task.toNat_succ hlt⟩

/-- Nothing else moves the count of attempts. -/
theorem Moment.Steps.counts {id : TaskId} {m : Moment} (h : m.Steps id)
    (hno : ∀ worker t, ¬m.Starts id worker t) :
    attemptCount (m.left id) = attemptCount (m.was id) := by
  unfold Moment.Steps at h
  generalize m.was id = v, m.left id = w at h ⊢
  have hcount {op : Operation} {t u : Task} (hm : t.Moves m.now op u)
      (hop : ∀ worker, op ≠ .start worker) : attemptCount (some u) = attemptCount (some t) :=
    congrArg UInt32.toNat (hm.attemptCount hop)
  obtain ⟨before, now, c, r, after⟩ := m
  cases h with
  | apart | missing | refused | made => rfl
  | carried hasks hc =>
    rename_i op q t u
    refine hcount (Task.moves_of_carry hc) ?_
    intro worker he
    subst he
    obtain ⟨v, _, hv⟩ := Task.map_eq_ok.mp hc
    cases hv
    cases c <;> cases hasks
    exact hno worker u ⟨rfl, rfl⟩
  | reclaimed _ _ hr => exact hcount (Task.reclaim_eq_ok hr) nofun
  | expired _ _ he => exact hcount (Task.expire_moves he) nofun

theorem Moment.Steps.opened {id : TaskId} {m : Moment} (h : m.Steps id) :
    List.range' 1 (attemptCount (m.was id)) ++ (m.opened? id).toList =
      List.range' 1 (attemptCount (m.left id)) := by
  by_cases hstart : ∃ worker t, m.Starts id worker t
  · obtain ⟨worker, u, hs⟩ := hstart
    obtain ⟨t, hwas, _, _, hleft, _, _, hsucc⟩ := h.starts hs
    have hopened : m.opened? id = some u.attemptCount.toNat := by
      rw [Moment.opened?, hs.1, hs.2]; exact if_pos rfl
    have hv : attemptCount (m.was id) = t.attemptCount.toNat := by rw [hwas]; rfl
    have hw : attemptCount (m.left id) = t.attemptCount.toNat + 1 := by rw [hleft]; exact hsucc
    rw [hopened, hv, hw, hsucc, List.range'_concat]
    simp [Nat.add_comm]
  · have hno : ∀ worker t, ¬m.Starts id worker t := fun worker t hs => hstart ⟨worker, t, hs⟩
    rw [Moment.opened?_eq_none fun worker t hcall hreply => hno worker t ⟨hcall, hreply⟩,
      h.counts hno]
    exact List.append_nil _

theorem Linked.opened {id : TaskId} {v : Option Task} {ms : List Moment} (h : Linked id v ms) :
    List.range' 1 (attemptCount v) ++ ms.filterMap (·.opened? id) =
      List.range' 1 (attemptCount (lastRead id v ms)) := by
  induction ms generalizing v with
  | nil => exact List.append_nil _
  | cons m ms ih =>
    obtain ⟨rfl, hm, hms⟩ := h
    have hcons : (m :: ms).filterMap (·.opened? id) =
        (m.opened? id).toList ++ ms.filterMap (·.opened? id) := by
      rw [List.filterMap_cons]; cases m.opened? id <;> rfl
    rw [hcons, ← List.append_assoc, hm.opened, ih hms]
    rfl

/-! ## Holding a task -/

/-- Only a claim of the worker puts a task into its hands. -/
theorem Moment.Steps.held {id : TaskId} {m : Moment} {worker : WorkerId} (h : m.Steps id)
    (hleft : Holds worker (m.left id)) (hno : ¬m.Claims id worker) : Holds worker (m.was id) := by
  unfold Moment.Steps at h
  generalize m.was id = v, m.left id = w at h hleft ⊢
  have hmoves {t u : Task} {op : Operation} (hm : t.Moves m.now op u)
      (hu : Holds worker (some u)) (hop : op ≠ .claim worker) : Holds worker (some t) := by
    obtain ⟨u', he, hheld, hw⟩ := hu
    cases he
    cases hm with
    | claim worker' => cases hw; exact absurd rfl hop
    | start worker' hs => exact ⟨t, rfl, by rw [hs]; rfl, hw⟩
    | touch worker' hs => exact ⟨t, rfl, hs, hw⟩
    | late => exact ⟨t, rfl, hheld, hw⟩
    | cancel hs =>
      have hpending : t.status.isHeld = true := hheld
      rw [hs] at hpending
      cases hpending
    | _ => cases hheld
  obtain ⟨before, now, c, r, after⟩ := m
  cases h with
  | apart | missing | refused => exact hleft
  | made => obtain ⟨u, he, hheld, _⟩ := hleft; cases he; cases hheld
  | carried hasks hc =>
    rename_i op q t u
    refine hmoves (Task.moves_of_carry hc) hleft ?_
    intro he
    subst he
    obtain ⟨u', _, hu⟩ := Task.map_eq_ok.mp hc
    cases hu
    cases c <;> cases hasks
    exact hno ⟨rfl, u, rfl⟩
  | reclaimed _ _ hr => exact hmoves (Task.reclaim_eq_ok hr) hleft nofun
  | expired _ _ he => exact hmoves (Task.expire_moves he) hleft nofun

/-- A worker that holds a task has claimed it, and has held it ever since. -/
theorem Linked.held {id : TaskId} {v : Option Task} {worker : WorkerId} (hv : ¬Holds worker v)
    {ms : List Moment} (h : Linked id v ms) (hlast : Holds worker (lastRead id v ms)) :
    ∃ xs m ys, ms = xs ++ m :: ys ∧ m.Claims id worker ∧
      ∀ n ∈ ys, Holds worker (n.was id) ∧ Holds worker (n.left id) := by
  induction ms using List.reverseRecOn with
  | nil => exact absurd hlast hv
  | append_singleton ms n ih =>
    obtain ⟨hms, hwas, hn, _⟩ := linked_append.mp h
    have hleft : Holds worker (n.left id) := by
      rw [lastRead, List.foldl_append] at hlast; exact hlast
    by_cases hc : n.Claims id worker
    · exact ⟨ms, n, [], rfl, hc, fun _ hk => absurd hk List.not_mem_nil⟩
    · have hheld := hn.held hleft hc
      obtain ⟨xs, m, ys, rfl, hm, hys⟩ := ih hms (hwas ▸ hheld)
      refine ⟨xs, m, ys ++ [n], by simp, hm, ?_⟩
      intro k hk
      rcases List.mem_append.mp hk with hk | hk
      · exact hys k hk
      · cases List.mem_singleton.mp hk
        exact ⟨hheld, hleft⟩

/-- A sign of life from a worker that does not hold the task is refused. -/
theorem Moment.Steps.touched {id : TaskId} {m : Moment} {worker : WorkerId} (h : m.Steps id)
    (hcall : m.call = .touch id worker) (hno : ¬Holds worker (m.was id)) :
    ∃ e, m.reply = .error e := by
  have hasks : m.call.asks = some (id, .touch worker) := by rw [hcall]; rfl
  rcases h.asked hasks with ⟨t, q, u, hwas, hcarry, _⟩ | ⟨_, ⟨_, e, _, _, _, he⟩ | ⟨_, e, he⟩⟩
  · cases Task.moves_of_carry hcarry with
    | touch _ hs hw => exact absurd ⟨t, hwas, hs, hw⟩ hno
  · exact ⟨_, he⟩
  · exact ⟨e, he⟩

/-! ## Attempts that run -/

/-- The attempt is the one that runs. -/
def Running (attempt : UInt32) (v : Option Task) : Prop :=
  ∃ t, v = some t ∧ t.status = .running ∧ t.attemptCount = attempt

/-- The attempt was opened, and does not run any more. -/
def Over (attempt : UInt32) (v : Option Task) : Prop :=
  ∃ t, v = some t ∧ (attempt.toNat < t.attemptCount.toNat ∨
    t.attemptCount = attempt ∧ t.status ≠ .running)

theorem not_running_of_over {attempt : UInt32} {v : Option Task} (h : Over attempt v) :
    ¬Running attempt v := by
  rintro ⟨t, rfl, hs, rfl⟩
  obtain ⟨u, he, h⟩ := h
  cases he
  rcases h with h | h
  · exact Nat.lt_irrefl _ h
  · exact h.2 hs

/-- An attempt that is over stays over while the task grows by one edge. -/
theorem Task.Grows.over {t u : Task} (h : t.Grows [(t.status, u.status)] u) {attempt : UInt32}
    (ht : Over attempt (some t)) : Over attempt (some u) := by
  obtain ⟨_, hv, hover⟩ := ht
  cases hv
  refine ⟨u, rfl, ?_⟩
  have hcount := h.attemptCount
  rw [List.countP_singleton] at hcount
  rcases hover with hlater | ⟨rfl, hstopped⟩
  · exact .inl (by omega)
  by_cases hu : u.status = .running
  · -- The only edge to a running task opens the next attempt.
    have hopens : StatusEdge.opens (t.status, u.status) = true := by
      have hedge := h.onDiagram _ (List.mem_singleton_self _)
      rw [hu] at hedge ⊢
      cases hs : t.status <;> simp_all [TaskStatus.diagram, StatusEdge.opens]
    rw [if_pos hopens] at hcount
    exact .inl (by omega)
  · have hopens : StatusEdge.opens (t.status, u.status) = false := by
      simp [StatusEdge.opens, hu]
    rw [if_neg (by simp [hopens])] at hcount
    exact .inr ⟨UInt32.toNat_inj.mp hcount, hu⟩

section Attempt

variable {id : TaskId} {m : Moment} {attempt : UInt32}

/-- An attempt that is over stays over. -/
theorem Moment.Steps.over (h : m.Steps id) (hv : Over attempt (m.was id)) :
    Over attempt (m.left id) := by
  rcases Step.moves h with he | ⟨_, _, hnone, _⟩ | ⟨op, t, u, ht, hu, hm⟩
  · exact he ▸ hv
  · rw [hnone] at hv
    obtain ⟨_, hsome, _⟩ := hv
    cases hsome
  · rw [ht] at hv
    rw [hu]
    exact hm.grows.over hv

/-- What is recorded about the attempt that runs ends it. -/
theorem Task.Moves.settled {t u : Task} {now : Instant} {decision : Decision}
    (h : t.Moves now (.settle attempt decision) u)
    (ht : t.status = .running ∧ t.attemptCount = attempt) :
    u.attemptCount = attempt ∧ u.status ≠ .running := by
  cases h with
  | late _ _ hno => exact absurd ht hno
  | _ => exact ⟨rfl, nofun⟩

theorem Task.Moves.reclaimed {t u : Task} {now : Instant} (h : t.Moves now .reclaim u) :
    u.attemptCount = t.attemptCount ∧ u.status ≠ .running := by
  cases h <;> exact ⟨rfl, nofun⟩

/-- What settles an attempt finds it running and leaves it over. -/
theorem Moment.Steps.settles (h : m.Steps id) (hs : m.Settles id attempt) :
    Running attempt (m.was id) ∧ Over attempt (m.left id) := by
  rcases hs with ⟨decision, status, t', hcall, hreply⟩ |
    ⟨cutoff, reports, t, hcall, hreply, hmem, hwas, hrunning, hattempt⟩
  · have hasks : m.call.asks = some (id, .settle attempt decision) := by rw [hcall]; rfl
    obtain ⟨t, u, hwas, hcarry, hleft⟩ := h.granted hasks hreply (by simp [Operation.refusal])
    obtain ⟨⟨a, v⟩, hsettle, hv⟩ := Task.map_eq_ok.mp hcarry
    cases hv
    obtain ⟨hm, ⟨ha, _⟩ | ⟨_, ht⟩⟩ := Task.settle_eq_ok hsettle
    · cases ha
    · exact ⟨⟨t, hwas, ht⟩, _, hleft, .inr (hm.settled ht)⟩
  · refine ⟨⟨t, hwas, hrunning, hattempt⟩, ?_⟩
    unfold Moment.Steps at h
    generalize m.was id = v, m.left id = w at h hwas ⊢
    obtain ⟨before, now, c, r, after⟩ := m
    cases h with
    | apart _ _ hno => exact absurd hmem (hno cutoff reports hcall hreply)
    | made | expired => cases hcall
    | missing _ hasks | refused _ hasks | carried hasks => cases hcall; cases hasks
    | reclaimed _ _ hr =>
      cases hwas
      have hm := (Task.reclaim_eq_ok hr).reclaimed
      exact ⟨_, rfl, .inr ⟨hm.1.trans hattempt, hm.2⟩⟩

/-- The outcome of the attempt that runs settles it, or is refused. -/
theorem Moment.Steps.recorded (h : m.Steps id) (hv : Running attempt (m.was id))
    {decision : Decision} (hcall : m.call = .recordOutcome id attempt decision) :
    m.Settles id attempt ∨ ∃ e, m.reply = .error e ∧ m.left id = m.was id := by
  have hasks : m.call.asks = some (id, .settle attempt decision) := by rw [hcall]; rfl
  obtain ⟨t, ht, hrunning⟩ := hv
  rcases h.asked hasks with ⟨t', q, u, hwas, hcarry, hq, _⟩ |
    ⟨hsame, ⟨_, e, _, _, _, he⟩ | ⟨_, e, he⟩⟩
  · rw [ht] at hwas
    cases hwas
    obtain ⟨⟨a, v⟩, hsettle, hv⟩ := Task.map_eq_ok.mp hcarry
    cases hv
    obtain ⟨_, ⟨_, hno⟩ | ⟨ha, _⟩⟩ := Task.settle_eq_ok hsettle
    · exact absurd hrunning hno
    · exact .inl (.inl ⟨decision, _, _, hcall, by rw [hq, ha]⟩)
  · exact .inr ⟨_, he, hsame⟩
  · exact .inr ⟨e, he, hsame⟩

/-- The outcome of an attempt that is over is recorded as a duplicate. -/
theorem Moment.Steps.duplicate (h : m.Steps id) (hv : Over attempt (m.was id))
    {decision : Decision} (hcall : m.call = .recordOutcome id attempt decision) :
    ∃ t, m.was id = some t ∧ m.reply = .ok (.settled .duplicate t) ∧ m.left id = some t := by
  have hasks : m.call.asks = some (id, .settle attempt decision) := by rw [hcall]; rfl
  have hnot := not_running_of_over hv
  obtain ⟨t, ht, _⟩ := hv
  have hcarry : t.carry (.settle attempt decision) m.now = .ok (.settled .duplicate t, t) := by
    rw [Task.carry, Task.settle_late fun hr => hnot ⟨t, ht, hr⟩]
    rfl
  rcases h.asked hasks with ⟨t', q, u, hwas, hok, hq, hleft⟩ | ⟨_, ⟨t', e, _, hwas, he, _⟩ | ⟨hwas, _⟩⟩
  · rw [ht] at hwas
    cases hwas
    rw [hcarry] at hok
    cases hok
    exact ⟨t, ht, hq, hleft⟩
  · rw [ht] at hwas
    cases hwas
    rw [hcarry] at he
    cases he
  · rw [ht] at hwas
    cases hwas

/-- An attempt that is not settled goes on. -/
theorem Moment.Steps.running (h : m.Steps id) (hv : Running attempt (m.was id))
    (hno : ¬m.Settles id attempt) : Running attempt (m.left id) := by
  obtain ⟨t, ht, hrunning, hattempt⟩ := hv
  by_cases hrecord : ∃ decision, m.call = .recordOutcome id attempt decision
  · obtain ⟨decision, hcall⟩ := hrecord
    rcases h.recorded ⟨t, ht, hrunning, hattempt⟩ hcall with hs | ⟨_, _, hsame⟩
    · exact absurd hs hno
    · exact ⟨t, hsame ▸ ht, hrunning, hattempt⟩
  unfold Moment.Steps at h
  generalize hw : m.left id = w at h ⊢
  rw [ht] at h
  obtain ⟨before, now, c, r, after⟩ := m
  have hstatus {s : TaskStatus} (hs : t.status = s) : s = .running := hs.symm.trans hrunning
  cases h with
  | apart | refused => exact ⟨t, rfl, hrunning, hattempt⟩
  | carried hasks hc =>
    rename_i op q u
    cases Task.moves_of_carry hc with
    | touch => exact ⟨_, rfl, hrunning, hattempt⟩
    | late => exact ⟨t, rfl, hrunning, hattempt⟩
    | claim _ hclaim =>
      cases hstatus (Task.pending_of_isClaimable hclaim)
    | start _ hs | resume _ hs | dismiss _ hs | reopen hs | cancel hs | expire hs =>
      cases hstatus hs
    | complete | retry | fail | escalate =>
      cases c <;> cases hasks
      exact absurd ⟨_, by rw [hattempt]⟩ hrecord
    | release | requeue | abandon => cases c <;> cases hasks
  | reclaimed cutoff hreport _ =>
    exact absurd (.inr ⟨cutoff, _, t, rfl, rfl, List.mem_map.mpr ⟨_, hreport, rfl⟩, ht, hrunning,
      hattempt⟩) hno
  | expired _ _ he =>
    cases Task.expire_moves he with
    | expire hs => cases hstatus hs

end Attempt

/-! ## Whole histories -/

end TaskPipeline
