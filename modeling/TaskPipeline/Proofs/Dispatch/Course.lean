import Mathlib.Data.Prod.Lex
import Mathlib.Order.WellFounded
import TaskPipeline.Proofs.Dispatch.Floor
import TaskPipeline.Proofs.Store.Replace
import TaskPipeline.Proofs.Task.Budget

/-!
# How a poll goes

`Poll.Goes` lists what a step of a poll can come to, with all that the step changes, where no two
tasks of the store have one name and the store says of the task in hand what the worker thinks of
it (`Poll.Backed`). `goes_step` is the only place that opens the steps of a poll. A poll that steps
only when it is due makes progress with each step (`Goes.progress`).
-/

namespace TaskPipeline

/-! ## Outcomes that can be recorded -/

/-- Every delay of the policy ends within the instants. -/
def RetryPolicy.Fits (policy : RetryPolicy) (now : Instant) : Prop :=
  ∀ hint attempt, now.toInt + (policy.delayFor hint attempt : Int) ≤ Int64.maxValue.toInt

theorem RetryPolicy.fits_of_le {policy : RetryPolicy} {now : Instant}
    (hgeneric : now.toInt + (policy.genericDelay : Int) ≤ Int64.maxValue.toInt)
    (hbackoff : now.toInt + (policy.maxBackoff : Int) ≤ Int64.maxValue.toInt) :
    policy.Fits now := by
  intro hint attempt
  have hnow := now.toInt_le
  cases hint with
  | immediate | external => simpa [delayFor] using hnow
  | fixed => exact hgeneric
  | backoff =>
    have hmin : policy.delayFor .backoff attempt ≤ policy.maxBackoff := Nat.min_le_right _ _
    exact (Int.add_le_add_left (Int.ofNat_le.mpr hmin) _).trans hbackoff

namespace Task

/-- What becomes of a task when its attempt is settled. -/
structure Settled (r u : Task) : Prop where
  id_eq : u.id = r.id
  taskType : u.taskType = r.taskType
  attemptCount : u.attemptCount = r.attemptCount
  maxAttempts : u.maxAttempts = r.maxAttempts
  claimedBy : u.claimedBy = none
  status : u.status = .pending ∨ u.status = .completed ∨ u.status = .failed ∨
    u.status = .needsDecision
  /-- A task is retried only within its budget. -/
  retried : u.status = .pending → r.attemptCount.toNat < r.maxAttempts.toNat

variable {r t : Task} {policy : RetryPolicy} {outcome : Outcome} {now : Instant}

/-- As a difference of instants a span is not longer than it is. -/
theorem toInt_toInt64_le (s : Span) : s.toInt64.toInt ≤ s := by
  rw [Span.toInt64, Int64.toInt_ofNat', Int.bmod_def]
  have hle := Nat.mod_le s Int64.size
  split <;> omega

/-- The delay of a retry is the policy's for the category of the failure. -/
theorem delay_of_decide {reflection : Reflection} {delay : Int64}
    (h : policy.decide r outcome now = .retry reflection delay) :
    delay = (policy.delayFor (RetryPolicy.categoryOf outcome).rule.delay
      r.attemptCount).toInt64 := by
  unfold RetryPolicy.decide at h
  dsimp only at h
  split at h
  · cases h
  split at h
  · cases h
  split at h
  · cases h
  split at h
  · split at h <;> cases h
  · cases h; rfl

theorem noted_decide (hfits : policy.Fits now) (t r : Task) (outcome : Outcome) :
    ∃ v, t.noted (policy.decide r outcome now) now = .ok v := by
  cases hd : policy.decide r outcome now with
  | complete | fail | escalate => exact ⟨_, rfl⟩
  | retry reflection delay =>
    obtain rfl := delay_of_decide hd
    have hle := toInt_toInt64_le
      (policy.delayFor (RetryPolicy.categoryOf outcome).rule.delay r.attemptCount)
    have hfits := hfits (RetryPolicy.categoryOf outcome).rule.delay r.attemptCount
    simp only [noted, delayed]
    split
    · exact ⟨_, rfl⟩
    · rw [if_pos (by omega)]
      exact ⟨_, rfl⟩

/-- What a decision notes leaves everything that identifies a task, and its counts. -/
theorem noted_keeps {decision : Decision} {v : Task} (h : t.noted decision now = .ok v) :
    v.id = t.id ∧ v.taskType = t.taskType ∧ v.attemptCount = t.attemptCount ∧
      v.maxAttempts = t.maxAttempts := by
  cases decision with
  | complete | fail | escalate => cases h; exact ⟨rfl, rfl, rfl, rfl⟩
  | retry reflection delay =>
    obtain ⟨next, _, h⟩ := bind_eq_ok.mp h
    cases h
    exact ⟨rfl, rfl, rfl, rfl⟩

/-- A running task is settled as the policy decides. -/
theorem settle_decide (hfits : policy.Fits now) (hrunning : t.status = .running)
    (hid : t.id = r.id) (htype : t.taskType = r.taskType)
    (hcount : t.attemptCount = r.attemptCount) (hmax : t.maxAttempts = r.maxAttempts)
    (outcome : Outcome) :
    ∃ status u, t.settle r.attemptCount (policy.decide r outcome now) now =
      .ok (.transitioned status, u) ∧ r.Settled u := by
  obtain ⟨v, hv⟩ := noted_decide hfits t r outcome
  obtain ⟨hid', htype', hcount', hmax'⟩ := noted_keeps hv
  have hsettle : t.settle r.attemptCount (policy.decide r outcome now) now = _ :=
    settle_running ⟨hrunning, hcount⟩
  rw [hv] at hsettle
  refine ⟨_, _, hsettle, hid'.trans hid, htype'.trans htype, hcount'.trans hcount,
    hmax'.trans hmax, rfl, ?_, ?_⟩
  · cases policy.decide r outcome now with
    | complete => exact .inr (.inl rfl)
    | retry => exact .inl rfl
    | fail => exact .inr (.inr (.inl rfl))
    | escalate => exact .inr (.inr (.inr rfl))
  · intro hpending
    cases hd : policy.decide r outcome now with
    | retry reflection delay => exact RetryPolicy.lt_of_decide_retry hd
    | _ => rw [hd] at hpending; cases hpending

end Task

/-! ## What a poll has in hand -/

namespace Poll

/-- The task that a poll has claimed, as the poll knows it. -/
def hand? : Poll → Option Task
  | starting t | launching t | settling t _ | telling t => some t
  | attempting a _ => some a.task
  | gating | querying | claiming _ | ended _ | crashed => none

/-- The worker runs the task, which has changed only by signs of life since then. -/
structure Runs (worker : WorkerId) (s : Store) (r : Task) : Prop where
  status : r.status = .running
  holder : r.claimedBy = some worker
  found : ∃ at', s.task? r.id = some { r with updatedAt := at' }

/-- The store says of the task in hand what the poll thinks of it, and has the candidates. -/
def Backed (worker : WorkerId) (s : Store) : Poll → Prop
  | claiming ts => ∀ t ∈ ts, ∃ v, s.task? t.id = some v ∧ v.taskType = t.taskType
  | starting t => s.task? t.id = some t ∧ t.status = .claimed ∧ t.claimedBy = some worker
  | launching r | settling r _ => Runs worker s r
  | attempting a _ => Runs worker s a.task
  | telling t => s.task? t.id = some t
  | gating | querying | ended _ | crashed => True

/-- Who leaves the task in hand alone, and no task out, leaves a poll backed. -/
theorem Backed.of_same {worker : WorkerId} {s s' : Store} {poll : Poll} (h : Backed worker s poll)
    (hkeeps : s.KeepsTypes s')
    (hsame : ∀ t, poll.hand? = some t → s'.task? t.id = s.task? t.id) : Backed worker s' poll := by
  cases poll with
  | claiming ts =>
    intro t ht
    obtain ⟨v, hv, htype⟩ := h t ht
    obtain ⟨u, hu, hsame⟩ := hkeeps t.id v hv
    exact ⟨u, hu, hsame.trans htype⟩
  | starting t => exact ⟨(hsame t rfl).trans h.1, h.2⟩
  | launching r | settling r _ => exact ⟨h.status, h.holder, by rw [hsame r rfl]; exact h.found⟩
  | attempting a _ => exact ⟨h.status, h.holder, by rw [hsame a.task rfl]; exact h.found⟩
  | telling t => exact (hsame t rfl).trans h
  | gating | querying | ended | crashed => trivial

end Poll

/-! ## Steps -/

namespace Poll

/-- What a step of a poll can come to: where the poll stands after it, and the workplace. -/
inductive Goes (p : DispatchPolicy) (worker : WorkerId) (c : Clocks) (w : Workplace) :
    Poll → Poll → Workplace → Prop where
  | breaks {n : Nat} : w.gatePanics = n + 1 → Goes p worker c w gating crashed
      { w with gatePanics := n }
  | refused : w.gateOpen = false → Goes p worker c w gating (ended false) w
  | admitted : w.gatePanics = 0 → w.gateOpen = true → Goes p worker c w gating querying w
  | finds {ts : List Task} : w.store.claimable p.taskTypes p.claimBatch c.now = .ok ts →
      Goes p worker c w querying (claiming ts) w
  | errs {e : StoreError} : w.store.claimable p.taskTypes p.claimBatch c.now = .error e →
      Goes p worker c w querying (ended false) w
  | leaves : Goes p worker c w (claiming []) (ended false) w
  | loses {t v : Task} {rest : List Task} : w.store.task? t.id = some v →
      v.isClaimable c.now = false → Goes p worker c w (claiming (t :: rest)) (claiming rest) w
  | wins {t v : Task} {rest : List Task} {s : Store} : w.store.task? t.id = some v →
      v.isClaimable c.now = true → w.store.Replaces (v.heldBy worker c.now) s →
      Goes p worker c w (claiming (t :: rest)) (starting (v.heldBy worker c.now))
        { w with store := s }
  | starts {t r : Task} {s : Store} : w.store.task? t.id = some t →
      t.Moves c.now (.start worker) r → w.store.Replaces r s →
      Goes p worker c w (starting t) (launching r) { w with store := s }
  | launches {r : Task} {a : Attempt} {g : Gateway} {e : Executor} :
      w.gateway.registry.executor? r.taskType = some e → a.task = r →
      a.overAt ≤ c.steady + w.gateway.limitOf r.taskType → (∀ type, g.launchesOf type =
        w.gateway.launchesOf type + if type = r.taskType then 1 else 0) →
      Goes p worker c w (launching r) (attempting a (c.steady + p.heartbeatInterval))
        { w with gateway := g }
  /-- No time at all is to lie between two signs of life. -/
  | stalls {r : Task} : p.heartbeatInterval = 0 → Goes p worker c w (launching r) crashed w
  /-- There is no executor for the task. -/
  | fails {r : Task} {outcome : Outcome} : w.gateway.registry.executor? r.taskType = none →
      Goes p worker c w (launching r) (settling r outcome) w
  | waits {a : Attempt} {beat : Nat} : c.steady < a.overAt → c.steady < beat →
      Goes p worker c w (attempting a beat) (attempting a beat) w
  | signs {a : Attempt} {beat : Nat} {at' : Instant} {s : Store} : c.steady < a.overAt →
      beat ≤ c.steady → w.store.task? a.task.id = some { a.task with updatedAt := at' } →
      w.store.Replaces { a.task with updatedAt := c.now } s →
      Goes p worker c w (attempting a beat) (attempting a (beat + p.heartbeatInterval))
        { w with store := s }
  | finishes {a : Attempt} {beat : Nat} {outcome : Outcome} {g : Gateway} :
      a.overAt ≤ c.steady → (∀ type, g.launchesOf type = w.gateway.launchesOf type) →
      Goes p worker c w (attempting a beat) (settling a.task outcome) { w with gateway := g }
  | settles {r u : Task} {outcome : Outcome} {at' : Instant} {s : Store} :
      w.store.task? r.id = some { r with updatedAt := at' } → r.Settled u →
      w.store.Replaces u s →
      Goes p worker c w (settling r outcome) (telling u) { w with store := s }
  | tells {u : Task} : Goes p worker c w (telling u) (ended true) (w.tell u)
  | rests {ran : Bool} : Goes p worker c w (ended ran) (ended ran) w
  | lies : Goes p worker c w crashed crashed w

variable {p : DispatchPolicy} {worker : WorkerId} {c : Clocks} {w : Workplace}

section Step

variable {t r : Task}

theorem goes_gating :
    Goes p worker c w gating (gating.step p worker c w).1 (gating.step p worker c w).2 := by
  simp only [step, gate]
  split
  · next hpanics =>
    cases hopen : w.gateOpen with
    | false => exact .refused hopen
    | true => exact .admitted hpanics hopen
  · next hpanics => exact .breaks hpanics

theorem goes_querying :
    Goes p worker c w querying (querying.step p worker c w).1 (querying.step p worker c w).2 := by
  simp only [step]
  cases h : w.store.claimable p.taskTypes p.claimBatch c.now with
  | ok ts => exact .finds h
  | error e => exact .errs h

theorem goes_claiming (hk : w.store.Keyed) {candidates : List Task}
    (hb : (claiming candidates).Backed worker w.store) :
    Goes p worker c w (claiming candidates) ((claiming candidates).step p worker c w).1
      ((claiming candidates).step p worker c w).2 := by
  cases candidates with
  | nil => exact .leaves
  | cons t rest =>
    obtain ⟨v, hv, _⟩ := hb t List.mem_cons_self
    cases hc : v.isClaimable c.now with
    | true =>
      obtain ⟨s, hclaim, hreplaces⟩ : ∃ s, w.store.claim t.id worker c.now = _ ∧ _ :=
        Store.claim_accepted hv hc
      simp only [step, claimFirst, hclaim]
      exact .wins hv hc hreplaces
    | false =>
      obtain ⟨hstore, hlost⟩ : (w.store.claim t.id worker c.now).2 = w.store ∧ _ :=
        Store.claim_refused hk hv hc
      rcases hclaim : w.store.claim t.id worker c.now with ⟨answer, s⟩
      rw [hclaim] at hstore hlost
      dsimp only at hstore
      subst hstore
      simp only [step, claimFirst, hclaim]
      cases answer with
      | error => exact .loses hv hc
      | ok result =>
        cases result with
        | claimed u => exact absurd rfl (hlost u)
        | alreadyClaimed => exact .loses hv hc

theorem goes_starting (hb : (starting t).Backed worker w.store)
    (hcount : t.attemptCount.toNat + 1 < UInt32.size) :
    Goes p worker c w (starting t) ((starting t).step p worker c w).1
      ((starting t).step p worker c w).2 := by
  obtain ⟨hfound, hstatus, hholder⟩ := hb
  have hstart : ∃ r, t.start worker c.now = .ok r := by
    simp only [Task.start, if_pos hstatus, Task.ensureHolder, if_pos hholder, Task.nextAttempt,
      if_pos hcount]
    exact ⟨_, rfl⟩
  obtain ⟨r, hr⟩ := hstart
  obtain ⟨s, hs, hreplaces⟩ := Store.start_accepted hfound hr
  simp only [step, hs]
  exact .starts hfound (Task.moves_of_apply hr) hreplaces

theorem goes_launching :
    Goes p worker c w (launching r) ((launching r).step p worker c w).1
      ((launching r).step p worker c w).2 := by
  simp only [step]
  split
  · next hp => exact .stalls hp
  cases he : w.gateway.registry.executor? r.taskType with
  | none =>
    obtain ⟨outcome, hlaunch⟩ := Gateway.launch_none he c.steady
    rw [hlaunch]
    exact .fails he
  | some e =>
    obtain ⟨a, g, hlaunch, htask, hover, hlaunches⟩ := Gateway.launch_some he c.steady
    rw [hlaunch]
    exact .launches he htask hover hlaunches

theorem goes_attempting {a : Attempt} {beat : Nat}
    (hb : (attempting a beat).Backed worker w.store) :
    Goes p worker c w (attempting a beat) ((attempting a beat).step p worker c w).1
      ((attempting a beat).step p worker c w).2 := by
  simp only [step, attend, giveSign]
  split
  · next hover => exact .finishes hover (Gateway.launchesOf_finish w.gateway a)
  · next hover =>
    have hover := Nat.lt_of_not_le hover
    split
    · next hbeat =>
      obtain ⟨at', hfound⟩ := hb.found
      refine .signs hover hbeat hfound (Store.touch_accepted hfound ?_)
      simp only [Task.touch, hb.status, TaskStatus.isHeld, Task.ensureHolder, hb.holder, if_true]
      rfl
    · next hbeat => exact .waits hover (Nat.lt_of_not_le hbeat)

theorem goes_settling {outcome : Outcome} (hb : (settling r outcome).Backed worker w.store)
    (hfits : w.policy.Fits c.now) :
    Goes p worker c w (settling r outcome) ((settling r outcome).step p worker c w).1
      ((settling r outcome).step p worker c w).2 := by
  obtain ⟨at', hfound⟩ := hb.found
  obtain ⟨status, u, hsettle, hsettled⟩ := Task.settle_decide (t := { r with updatedAt := at' })
    (r := r) hfits hb.status rfl rfl rfl rfl outcome
  obtain ⟨s, hs, hreplaces⟩ := Store.recordOutcome_accepted hfound hsettle
  simp only [step, settle, hs]
  exact .settles hfound hsettled hreplaces

end Step

/-- **A step of a poll does one of the things that `Goes` lists.** -/
theorem goes_step {poll : Poll} (hk : w.store.Keyed) (hb : poll.Backed worker w.store)
    (hcount : ∀ t, poll = starting t → t.attemptCount.toNat + 1 < UInt32.size)
    (hfits : ∀ r outcome, poll = settling r outcome → w.policy.Fits c.now) :
    Goes p worker c w poll (poll.step p worker c w).1 (poll.step p worker c w).2 := by
  cases poll with
  | gating => exact goes_gating
  | querying => exact goes_querying
  | claiming candidates => exact goes_claiming hk hb
  | starting t => exact goes_starting hb (hcount t rfl)
  | launching r => exact goes_launching
  | attempting a beat => exact goes_attempting hb
  | settling r outcome => exact goes_settling hb (hfits r outcome rfl)
  | telling u => exact .tells
  | ended ran => exact .rests
  | crashed => exact .lies

section Goes

variable {poll poll' : Poll} {w' : Workplace}

/-- A poll stays backed through its own step. -/
theorem Goes.backed (h : Goes p worker c w poll poll' w') (hk : w.store.Keyed)
    (hb : poll.Backed worker w.store) : poll'.Backed worker w'.store := by
  cases h with
  | finds hts => exact fun t ht => ⟨t, (Store.mem_claimable hk hts ht).1, rfl⟩
  | loses => exact fun t ht => hb t (List.mem_cons_of_mem _ ht)
  | wins _ _ hs => exact ⟨hs.puts.self, rfl, rfl⟩
  | starts _ hm hs =>
    cases hm with
    | start _ _ hholder _ => exact ⟨rfl, hholder, _, hs.puts.self⟩
  | launches _ htask => subst htask; exact hb
  | signs _ _ _ hs => exact ⟨hb.status, hb.holder, _, hs.puts.self⟩
  | settles _ _ hs => exact hs.puts.self
  | fails | waits | finishes => exact hb
  | _ => trivial

/-! ## Progress -/

/-- The poll has come to its end. -/
def isOver : Poll → Bool
  | ended _ | crashed => true
  | _ => false

/-- How far a poll is from its end: the steps that are left, and within a step what makes it be done
again, which are candidates and signs of life. -/
def remaining : Poll → Nat × Nat
  | gating => (8, 0)
  | querying => (7, 0)
  | claiming candidates => (6, candidates.length)
  | starting _ => (5, 0)
  | launching _ => (4, 0)
  | attempting a beat => (3, a.overAt - beat)
  | settling _ _ => (2, 0)
  | telling _ => (1, 0)
  | ended _ | crashed => (0, 0)

/-- The poll steps only when it has something to do. -/
def Due (c : Clocks) (poll : Poll) : Prop := ∀ instant, poll.waitsUntil = some instant →
  instant ≤ c.steady

/-- **Each step that is due brings a poll nearer to its end.** -/
theorem Goes.progress (h : Goes p worker c w poll poll' w') (hp : p.heartbeatInterval ≠ 0)
    (hdue : poll.Due c) (hover : poll.isOver = false) :
    toLex poll'.remaining < toLex poll.remaining := by
  rw [Prod.Lex.toLex_lt_toLex]
  cases h with
  | loses => exact .inr ⟨rfl, Nat.lt_succ_self _⟩
  | @waits a beat hend hbeat =>
    -- Neither the end of the attempt nor a sign of life is due.
    have := hdue _ rfl
    omega
  | @signs a beat at' s hend hbeat =>
    exact .inr ⟨rfl, Nat.sub_lt_sub_left (Nat.lt_of_le_of_lt hbeat hend)
      (Nat.lt_add_of_pos_right (Nat.pos_of_ne_zero hp))⟩
  | rests | lies => cases hover
  | _ => exact .inl (by simp [remaining])

end Goes

end Poll

/-- What a poll finds when it does a step: the clocks, and the workplace as others have left it. -/
structure Turn where
  clocks : Clocks
  place : Workplace

/-- What a poll answers in the end: whether it has run a task, or nothing if it broke down. -/
def Poll.answer? : Poll → Option Bool
  | ended ran => some ran
  | _ => none

theorem Poll.answer?_eq_some {poll : Poll} {ran : Bool} :
    poll.answer? = some ran ↔ poll = .ended ran := by
  cases poll <;> simp [answer?]

/-- What gets smaller until it is done is done some day. -/
theorem exists_done {α : Type} [Preorder α] [WellFoundedLT α] (rank : Nat → α)
    {done : Nat → Prop} (h : ∀ n, ¬done n → rank (n + 1) < rank n) : ∃ n, done n := by
  by_contra hnever
  have hdescends : ∀ n, rank (n + 1) < rank n := fun n => h n fun hn => hnever ⟨n, hn⟩
  exact (wellFounded_iff_isEmpty_descending_chain.mp
    (wellFounded_lt (α := α))).false ⟨rank, hdescends⟩

/-! ## Polls of a pipeline -/

namespace Pipeline

/-- The pipeline when a poll has something to do. -/
def wait (p : Pipeline) (poll : Poll) : Pipeline :=
  match poll.waitsUntil with
  | some instant => p.passUntil instant
  | none => p

/-- What a poll finds in a pipeline when it has something to do. -/
def turn (p : Pipeline) (poll : Poll) : Turn := ⟨(p.wait poll).clocks, (p.wait poll).place⟩

/-- A poll that is driven from outside does its next step. -/
def visit (policy : DispatchPolicy) (worker : WorkerId) (poll : Poll) (p : Pipeline) :
    Poll × Pipeline :=
  let (poll', place) := poll.step policy worker (p.turn poll).clocks (p.turn poll).place
  (poll', { p.wait poll with place := place })

variable {p : Pipeline} {policy : DispatchPolicy} {worker : WorkerId} {poll : Poll}

/-- A poll is due when the pipeline has waited for it. -/
theorem due_turn (p : Pipeline) (poll : Poll) : poll.Due (p.turn poll).clocks := by
  intro instant h
  simp only [turn, wait, h]
  exact Nat.le_max_right _ _

/-- A poll that is seen through goes from step to step. -/
theorem finishPoll_visit (h : poll.isOver = false) (fuel : Nat) :
    finishPoll policy worker (fuel + 1) poll p =
      finishPoll policy worker fuel (visit policy worker poll p).1
        (visit policy worker poll p).2 := by
  cases poll <;> first | rfl | cases h

/-- A poll that is over answers. -/
theorem finishPoll_over (h : poll.isOver = true) (fuel : Nat) :
    finishPoll policy worker (fuel + 1) poll p = (poll.answer?, p) := by
  cases poll <;> first | rfl | cases h

/-- A pipeline without actors waits in peace. -/
theorem wait_idle (h : p.actors = []) (poll : Poll) :
    (p.wait poll).place = p.place ∧ (p.wait poll).actors = [] := by
  have hpass : ∀ instant, p.passUntil instant = { p with clock := max p.clock instant } := by
    intro instant
    simp [passUntil, wakeBound, runBefore, nextDue, least, h]
  unfold wait
  split
  · rw [hpass]
    exact ⟨rfl, h⟩
  · exact ⟨rfl, h⟩

end Pipeline

end TaskPipeline
