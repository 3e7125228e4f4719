import TaskPipeline.Dispatch.Worker
import TaskPipeline.Proofs.Store.Sweep

/-!
# What a worker's step does

From the store a worker has started a task to the outcome it records, an attempt is open.
`Worker.Acts` lists everything that a step of a worker can do about attempts and to the store;
`acts_step` and `acts_sign` are the only places that open the steps of a poll.
-/

namespace TaskPipeline

/-- The open attempt of a poll: its task as it was when the attempt began. -/
def Poll.attempt? : Poll → Option Task
  | .launching running | .settling running _ => some running
  | .attempting a _ => some a.task
  | _ => none

theorem Poll.attempt?_abandon (e : StoreError) : (Poll.abandon e).attempt? = none := by
  cases e <;> rfl

namespace Worker

/-- The open attempt of a worker. -/
def attempt? (x : Worker) : Option Task :=
  match x.phase with
  | .polling poll => poll.attempt?
  | _ => none

/-- Until when a worker with an open attempt may stay silent. -/
def pledge (x : Worker) (clock : Nat) : Nat :=
  match x.phase with
  | .polling (.launching _) => clock + x.policy.heartbeatInterval
  | .polling (.attempting _ beat) => beat
  | _ => clock

/-- A sign of life that is due is given, even if the attempt is over at that very instant. -/
def sign (x : Worker) (c : Clocks) (w : Workplace) : Worker × Workplace :=
  match x.phase with
  | .polling (.attempting a beat) =>
    let (poll, w) := Poll.giveSign x.policy x.id c w a beat
    ({ x with phase := .polling poll }, w)
  | _ => (x, w)

/-- All that a worker can do in one step: its attempt before and after, and the store it leaves. -/
inductive Acts (c : Clocks) (s : Store) (x : Worker) : Worker → Store → Prop where
  | idle {x' : Worker} {s' : Store} : x.attempt? = none → x'.attempt? = none → s.Same s' →
      Acts c s x x' s'
  | claims {x' : Worker} {s' : Store} {t : Task} : x.attempt? = none → x'.attempt? = none →
      s.Puts t s' → t.status = .claimed →
      (∀ v, s.task? t.id = some v → v.status = .pending) → Acts c s x x' s'
  | opens {x' : Worker} {s' : Store} {t r : Task} : x.attempt? = none → x'.attempt? = some r →
      s.task? r.id = some t → t.Moves c.now (.start x.id) r → s.Puts r s' →
      x'.pledge c.steady = c.steady + x.policy.heartbeatInterval → Acts c s x x' s'
  | keeps {x' : Worker} {r : Task} : x.attempt? = some r → x'.attempt? = some r →
      x'.pledge c.steady = x.pledge c.steady ∨ x'.pledge c.steady = c.steady → Acts c s x x' s
  | signs {x' : Worker} {r : Task} : x.attempt? = some r → x'.attempt? = some r →
      x.pledge c.steady ≤ c.steady →
      x'.pledge c.steady = x.pledge c.steady + x.policy.heartbeatInterval →
      Acts c s x x' (s.touch r.id x.id c.now).2
  | settles {x' : Worker} {r : Task} (decision : Decision) : x.attempt? = some r →
      x'.attempt? = none → Acts c s x x' (s.recordOutcome r.id r.attemptCount decision c.now).2
  /-- The worker breaks down. -/
  | drops {x' : Worker} {r : Task} : x.attempt? = some r → x'.attempt? = none → Acts c s x x' s

section Step

variable {x : Worker} {c : Clocks} {w : Workplace}

theorem attempt?_polling {poll : Poll} (hp : x.phase = .polling poll) :
    x.attempt? = poll.attempt? := by
  simp only [attempt?, hp]

theorem step_polling {poll : Poll} (hp : x.phase = .polling poll) (hended : ∀ ran, poll ≠ .ended ran)
    (hcrashed : poll ≠ .crashed) :
    x.step c w = ({ x with phase := .polling (poll.step x.policy x.id c w).1 },
      (poll.step x.policy x.id c w).2) := by
  cases poll with
  | ended ran => exact absurd rfl (hended ran)
  | crashed => exact absurd rfl hcrashed
  | _ => simp only [step, hp]

theorem acts_giveSign {a : Attempt} {beat : Nat} (hp : x.phase = .polling (.attempting a beat)) :
    Acts c w.store x { x with phase := .polling (Poll.giveSign x.policy x.id c w a beat).1 }
      (Poll.giveSign x.policy x.id c w a beat).2.store := by
  have hattempt : x.attempt? = some a.task := attempt?_polling hp
  have hpledge : x.pledge c.steady = beat := by simp only [pledge, hp]
  unfold Poll.giveSign
  split
  · next hdue => exact .signs hattempt rfl (by rw [hpledge]; exact hdue) (by rw [hpledge]; rfl)
  · exact .keeps hattempt rfl (.inl hpledge.symm)

theorem acts_claiming {candidates : List Task} (hp : x.phase = .polling (.claiming candidates)) :
    Acts c w.store x { x with phase := .polling (Poll.claimFirst x.id c w candidates).1 }
      (Poll.claimFirst x.id c w candidates).2.store := by
  have hattempt : x.attempt? = none := attempt?_polling hp
  cases candidates with
  | nil => exact .idle hattempt rfl (.refl _)
  | cons t rest =>
    rcases Store.claim_cases w.store t.id x.id c.now with
      ⟨hsame, hlost⟩ | ⟨u, hwon, hwins⟩
    · rcases hclaim : w.store.claim t.id x.id c.now with ⟨answer, s'⟩
      rw [hclaim] at hsame hlost
      simp only [Poll.claimFirst, hclaim]
      match answer with
      | .ok (.claimed u) => exact absurd rfl (hlost u)
      | .ok .alreadyClaimed => exact .idle hattempt rfl hsame
      | .error e => exact .idle hattempt rfl hsame
    · rcases hclaim : w.store.claim t.id x.id c.now with ⟨answer, s'⟩
      rw [hclaim] at hwon hwins
      cases hwon
      simp only [Poll.claimFirst, hclaim]
      refine .claims hattempt rfl hwins.puts hwins.status ?_
      intro v hv
      rw [hwins.id_eq] at hv
      exact Task.pending_of_isClaimable (hwins.before v hv).1

theorem acts_starting {claimed : Task} (hp : x.phase = .polling (.starting claimed)) :
    Acts c w.store x
      { x with phase := .polling (Poll.step x.policy x.id c (.starting claimed) w).1 }
      (Poll.step x.policy x.id c (.starting claimed) w).2.store := by
  have hattempt : x.attempt? = none := attempt?_polling hp
  simp only [Poll.step]
  rcases Store.start_cases w.store claimed.id x.id c.now with
    ⟨e, hstart⟩ | ⟨t, r, s', ht, hmoves, hputs, hstart⟩
  · rw [hstart]
    exact .idle hattempt (Poll.attempt?_abandon e) (.refl _)
  · rw [hstart]
    have hid : r.id = claimed.id := hmoves.keeps.1.trans (Store.id_of_task? ht)
    exact .opens hattempt rfl (by rw [hid]; exact ht) hmoves hputs rfl

theorem acts_launching {running : Task} (hp : x.phase = .polling (.launching running)) :
    Acts c w.store x
      { x with phase := .polling (Poll.step x.policy x.id c (.launching running) w).1 }
      (Poll.step x.policy x.id c (.launching running) w).2.store := by
  have hattempt : x.attempt? = some running := attempt?_polling hp
  have hpledge : x.pledge c.steady = c.steady + x.policy.heartbeatInterval := by
    simp only [pledge, hp]
  simp only [Poll.step]
  split
  · exact .drops hattempt rfl
  · unfold Gateway.launch
    cases w.gateway.registry.executor? running.taskType with
    | none => exact .keeps hattempt rfl (.inr rfl)
    | some e => exact .keeps hattempt rfl (.inl hpledge.symm)

theorem acts_attempting {a : Attempt} {beat : Nat} (hp : x.phase = .polling (.attempting a beat)) :
    Acts c w.store x { x with phase := .polling (Poll.attend x.policy x.id c w a beat).1 }
      (Poll.attend x.policy x.id c w a beat).2.store := by
  have hattempt : x.attempt? = some a.task := attempt?_polling hp
  unfold Poll.attend
  split
  · exact .keeps hattempt rfl (.inr rfl)
  · exact acts_giveSign hp

theorem acts_settling {running : Task} {outcome : Outcome}
    (hp : x.phase = .polling (.settling running outcome)) :
    Acts c w.store x { x with phase := .polling (Poll.settle c w running outcome).1 }
      (Poll.settle c w running outcome).2.store := by
  have hattempt : x.attempt? = some running := attempt?_polling hp
  rcases hrecord : w.store.recordOutcome running.id running.attemptCount
    (w.policy.decide running outcome c.now) c.now with ⟨answer, s'⟩
  have hs' : s' = (w.store.recordOutcome running.id running.attemptCount
    (w.policy.decide running outcome c.now) c.now).2 := by rw [hrecord]
  simp only [Poll.settle, hrecord]
  subst hs'
  match answer with
  | .ok (.transitioned _, _) | .ok (.duplicate, _) => exact .settles _ hattempt rfl
  | .error e => exact .settles _ hattempt (Poll.attempt?_abandon e)

theorem acts_polling {poll : Poll} (hp : x.phase = .polling poll) :
    Acts c w.store x (x.step c w).1 (x.step c w).2.store := by
  have hattempt := attempt?_polling hp
  cases poll with
  | ended ran => cases ran <;> simp only [step, hp] <;> exact .idle hattempt rfl (.refl _)
  | crashed =>
    simp only [step, hp]
    exact .idle hattempt rfl (.refl _)
  | gating =>
    rw [step_polling hp (by simp) (by simp)]
    simp only [Poll.step, Poll.gate]
    split
    · refine .idle hattempt ?_ (.refl _)
      cases w.gateOpen <;> rfl
    · exact .idle hattempt rfl (.refl _)
  | querying =>
    rw [step_polling hp (by simp) (by simp)]
    simp only [Poll.step]
    split <;> exact .idle hattempt rfl (.refl _)
  | telling settled =>
    rw [step_polling hp (by simp) (by simp)]
    exact .idle hattempt rfl (.refl _)
  | claiming candidates => rw [step_polling hp (by simp) (by simp)]; exact acts_claiming hp
  | starting claimed => rw [step_polling hp (by simp) (by simp)]; exact acts_starting hp
  | launching running => rw [step_polling hp (by simp) (by simp)]; exact acts_launching hp
  | attempting a beat => rw [step_polling hp (by simp) (by simp)]; exact acts_attempting hp
  | settling running outcome => rw [step_polling hp (by simp) (by simp)]; exact acts_settling hp

/-- **A step of a worker does one of the things that `Acts` lists.** -/
theorem acts_step (x : Worker) (c : Clocks) (w : Workplace) :
    Acts c w.store x (x.step c w).1 (x.step c w).2.store := by
  cases hp : x.phase with
  | polling poll => exact acts_polling hp
  | deciding =>
    have hattempt : x.attempt? = none := by simp only [attempt?, hp]
    simp only [step, hp]
    refine .idle hattempt ?_ (.refl _)
    split <;> rfl
  | resting wakes =>
    have hattempt : x.attempt? = none := by simp only [attempt?, hp]
    simp only [step, hp]
    split
    · exact .idle hattempt rfl (.refl _)
    · split
      · exact .idle hattempt rfl (.refl _)
      · exact .idle hattempt hattempt (.refl _)
  | stopped =>
    have hattempt : x.attempt? = none := by simp only [attempt?, hp]
    simp only [step, hp]
    exact .idle hattempt hattempt (.refl _)

theorem acts_sign (x : Worker) (c : Clocks) (w : Workplace) :
    Acts c w.store x (x.sign c w).1 (x.sign c w).2.store := by
  unfold sign
  split
  · next hp => exact acts_giveSign hp
  · next hp =>
    cases hattempt : x.attempt? with
    | none => exact .idle hattempt hattempt (.refl _)
    | some r => exact .keeps hattempt hattempt (.inl rfl)

/-- A worker keeps its name and its policy. -/
theorem step_same (x : Worker) (c : Clocks) (w : Workplace) :
    (x.step c w).1.id = x.id ∧ (x.step c w).1.policy = x.policy := by
  unfold step
  split <;> try exact ⟨rfl, rfl⟩
  split
  · exact ⟨rfl, rfl⟩
  · split <;> exact ⟨rfl, rfl⟩

theorem sign_same (x : Worker) (c : Clocks) (w : Workplace) :
    (x.sign c w).1.id = x.id ∧ (x.sign c w).1.policy = x.policy := by
  unfold sign
  split <;> exact ⟨rfl, rfl⟩

/-- As long as nobody is late, a worker with an open attempt is never silent for too long. -/
theorem pledge_of_pass {r : Task} (h : x.attempt? = some r) {clock t : Nat} (hle : clock ≤ t)
    (hpass : ∀ k, x.wake clock = some k → t ≤ k.due) :
    x.pledge t = x.pledge clock ∧ (t = clock ∨ t ≤ x.pledge clock) := by
  unfold attempt? at h
  split at h
  · next poll hp =>
    cases poll with
    | attempting a beat =>
      simp only [wake, pledge, hp, true_and] at hpass ⊢
      split at hpass
      · next hover => exact .inr (Nat.le_trans (hpass _ rfl) hover)
      · exact .inr (hpass _ rfl)
    | launching | settling =>
      simp only [wake, hp] at hpass
      have ht : t = clock := Nat.le_antisymm (hpass _ rfl) hle
      exact ⟨by rw [ht], .inl ht⟩
    | _ => cases h
  · cases h

end Step

end Worker

end TaskPipeline
