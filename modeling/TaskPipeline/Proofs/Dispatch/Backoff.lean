import TaskPipeline.Proofs.Dispatch.Course
import TaskPipeline.Proofs.Dispatch.Crew
import TaskPipeline.Proofs.Store.Passage

/-!
# A task that is retried waits out its delay

After a failure of the network or at the time limit a policy puts a task off. The delay that is
asked for doubles with each attempt up to a greatest one; the delay that is granted is that, except
that doubling ends after the seventeenth attempt. Main statement: `backoff_honoured`. From the
recorded decision on, whatever is asked of the store, the task is neither listed nor claimed before
its delay is over, and is both from then on, until somebody claims it or it is cancelled.
-/

namespace TaskPipeline

/-! ## How long -/

namespace RetrySettings

/-- The delay that is asked for after an attempt, in milliseconds. -/
def backoff (s : RetrySettings) (attempt : Nat) : Nat :=
  min (s.baseBackoffSecs.toNat * 1000 * 2 ^ (attempt - 1)) (s.maxBackoffSecs.toNat * 1000)

/-- The delay at which doubling ends. -/
def backoffEnd (s : RetrySettings) : Nat :=
  s.baseBackoffSecs.toNat * 1000 * 2 ^ RetryPolicy.maxDoublings

/-- The delay that is granted after an attempt. -/
def delay (s : RetrySettings) (attempt : Nat) : Nat := min (s.backoff attempt) s.backoffEnd

variable {s : RetrySettings}

/-- The delay is the one that is asked for, unless doubling has ended before the greatest. -/
theorem delay_eq_backoff {attempt : Nat} (h : attempt ≤ 17 ∨
    s.maxBackoffSecs.toNat ≤ s.baseBackoffSecs.toNat * 2 ^ 16) :
    s.delay attempt = s.backoff attempt := by
  refine Nat.min_eq_left ?_
  rcases h with hattempt | hmax
  · have hpow : 2 ^ (attempt - 1) ≤ 2 ^ RetryPolicy.maxDoublings :=
      Nat.pow_le_pow_right (by omega) (by show attempt - 1 ≤ 16; omega)
    exact Nat.le_trans (Nat.min_le_left _ _) (Nat.mul_le_mul_left _ hpow)
  · refine Nat.le_trans (Nat.min_le_right _ _) ?_
    show s.maxBackoffSecs.toNat * 1000 ≤ s.baseBackoffSecs.toNat * 1000 * 2 ^ 16
    omega

theorem delay_le (s : RetrySettings) (attempt : Nat) :
    s.delay attempt ≤ s.maxBackoffSecs.toNat * 1000 :=
  Nat.le_trans (Nat.min_le_left _ _) (Nat.min_le_right _ _)

/-- To end the doubling is to end the growth. -/
theorem delay_eq (s : RetrySettings) (attempt : Nat) : s.delay attempt =
    min (s.baseBackoffSecs.toNat * 1000 * 2 ^ min (attempt - 1) RetryPolicy.maxDoublings)
      (s.maxBackoffSecs.toNat * 1000) := by
  have hmono : ∀ {m n : Nat}, m ≤ n → s.baseBackoffSecs.toNat * 1000 * 2 ^ m ≤
      s.baseBackoffSecs.toNat * 1000 * 2 ^ n := fun h =>
    Nat.mul_le_mul_left _ (Nat.pow_le_pow_right (by omega) h)
  rw [delay, backoff, backoffEnd]
  rcases Nat.le_total (attempt - 1) RetryPolicy.maxDoublings with hle | hle
  · have hbase := hmono hle
    rw [Nat.min_eq_left hle]
    omega
  · have hbase := hmono hle
    rw [Nat.min_eq_right hle]
    omega

/-- The policy that the settings ask for grants this delay. -/
theorem delayFor_backoff (hbase : s.baseBackoffSecs.toNat ≤ 2 ^ 40) (attempt : UInt32) :
    (RetryPolicy.ofSettings s).delayFor .backoff attempt = s.delay attempt.toNat := by
  have hpow : 2 ^ min (attempt.toNat - 1) RetryPolicy.maxDoublings ≤ 2 ^ 16 :=
    Nat.pow_le_pow_right (by omega) (Nat.min_le_right _ _)
  have hproduct : s.baseBackoffSecs.toNat * 1000 *
      2 ^ min (attempt.toNat - 1) RetryPolicy.maxDoublings ≤ Span.greatest :=
    Nat.le_trans (Nat.mul_le_mul (Nat.mul_le_mul_right 1000 hbase) hpow) (by decide)
  rw [delay_eq, ← Nat.min_eq_left hproduct]
  rfl

end RetrySettings

/-! ## Waiting -/

namespace Task

/-- The task is pending, and may be claimed from an instant on. -/
structure Waits (next : Option Instant) (t : Task) : Prop where
  pending : t.status = .pending
  next : t.nextAttemptAt = next

variable {t u : Task} {now : Instant} {op : Operation} {next : Option Instant}

theorem Waits.isClaimable (h : t.Waits next) (now : Instant) :
    t.isClaimable now = (!t.cancelled && next.all (· ≤ now)) := by
  rw [Task.isClaimable, h.pending, h.next]
  rfl

/-- Only a claim ends the wait. -/
theorem Waits.moves (h : t.Waits next) (hm : t.Moves now op u)
    (hop : ∀ worker, op ≠ .claim worker) : u.Waits next := by
  cases hm with
  | claim worker => exact absurd rfl (hop worker)
  | late => exact h
  | cancel => exact ⟨h.pending, h.next⟩
  | _ => simp_all [h.pending, TaskStatus.isHeld]

/-- A delay that ends within the instants is over exactly from its end on. -/
theorem delayed_span {d : Nat} (h0 : 0 ≤ now.toInt)
    (h : now.toInt + d ≤ Int64.maxValue.toInt) :
    ∃ next, delayed now (Span.toInt64 d) = .ok next ∧ ∀ later : Instant, now.toInt ≤ later.toInt →
      next.all (· ≤ later) = decide (now.toInt + d ≤ later.toInt) := by
  have hd : (Span.toInt64 d).toInt = d := Span.toInt_toInt64 (by omega)
  unfold delayed
  rw [hd, if_pos h]
  by_cases hzero : (Span.toInt64 d) ≤ 0
  · have hnone : d = 0 := by
      rw [Int64.le_iff_toInt_le, hd, Int64.toInt_zero] at hzero
      omega
    refine ⟨none, if_pos hzero, fun later hlater => ?_⟩
    simp [hnone, hlater]
  · refine ⟨some (now + (Span.toInt64 d)), if_neg hzero, fun later _ => ?_⟩
    have hdue : (now + (Span.toInt64 d)).toInt = now.toInt + d := toInt_after h0 h
    simp [Int64.le_iff_toInt_le, hdue]

end Task

/-- A worker wins the task with the id. -/
def Moment.wins (m : Moment) (id : TaskId) : Bool :=
  match m.call, m.reply with
  | .claim i _, .ok (.claim (.claimed _)) => i == id
  | _, _ => false

/-- Every task that a history makes gets an id of its own. -/
def History.isFresh (s : Store) : History → Bool
  | [] => true
  | (now, c) :: rest => c.isFresh s && isFresh (s.perform now c).2 rest

namespace Store

variable {s : Store} {id : TaskId} {t : Task} {next : Option Instant}

/-- A call that does not win the task leaves it waiting. -/
theorem waits_perform (hk : s.Keyed) {c : Call} (hc : c.isFresh s = true) {now : Instant}
    (ht : s.task? id = some t) (hw : t.Waits next) (hlost : (s.moment now c).wins id = false) :
    ∃ u, (s.perform now c).2.task? id = some u ∧ u.Waits next := by
  have hpasses := Store.passes_perform hk c (Call.unused_of_isFresh hc) now id
  rw [ht] at hpasses
  generalize hv : (s.perform now c).2.task? id = v at hpasses
  cases hpasses with
  | stays => exact ⟨t, rfl, hw⟩
  | moves hreaches hmoves =>
    refine ⟨_, rfl, hw.moves hmoves fun worker hop => ?_⟩
    subst hop
    obtain rfl : c = .claim id worker := by
      cases hreaches with
      | asks hasks => cases c <;> cases hasks; rfl
    cases hmoves with
    | claim _ hclaimable =>
      obtain ⟨s', hs', -⟩ : ∃ s', s.claim id worker now = _ ∧ _ := claim_accepted ht hclaimable
      simp [Moment.wins, moment, perform, answered, hs', Except.map] at hlost

theorem waits_run (hk : s.Keyed) {history : History} (hf : history.isFresh s = true)
    (ht : s.task? id = some t) (hw : t.Waits next)
    (hlost : ∀ m ∈ s.trace history, m.wins id = false) :
    (s.run history).Keyed ∧ ∃ u, (s.run history).task? id = some u ∧ u.Waits next := by
  induction history generalizing s t with
  | nil => exact ⟨hk, t, ht, hw⟩
  | cons e rest ih =>
    obtain ⟨now, c⟩ := e
    obtain ⟨hc, hrest⟩ := Bool.and_eq_true_iff.mp hf
    obtain ⟨u, hu, hw'⟩ := waits_perform hk hc ht hw (hlost _ List.mem_cons_self)
    exact ih (keepsTypes_perform hk hc now).2 hrest hu hw' fun m hm =>
      hlost m (List.mem_cons_of_mem _ hm)

/-- The store puts a task off, as everybody sees who looks at it after an instant. -/
structure PutOff (s : Store) (id : TaskId) (since due : Int) : Prop where
  hidden : ∀ now : Instant, since ≤ now.toInt → now.toInt < due → ∀ types limit ts,
    s.claimable types limit now = .ok ts → ∀ u ∈ ts, u.id ≠ id
  refused : ∀ now : Instant, since ≤ now.toInt → now.toInt < due → ∀ worker,
    (s.claim id worker now).2 = s ∧ ∀ u, (s.claim id worker now).1 ≠ .ok (.claimed u)
  /-- When its time has come, the task is open to all, unless it was cancelled. -/
  opened : ∃ u, s.task? id = some u ∧ (u.cancelled = false →
    ∀ now : Instant, due ≤ now.toInt →
      (∀ worker, (s.claim id worker now).1 = .ok (.claimed (u.heldBy worker now))) ∧
      ∀ types limit, u.isOf types = true → s.size ≤ limit.toNat →
        (s.Readable → ∃ ts, s.claimable types limit now = .ok ts) ∧
        ∀ ts, s.claimable types limit now = .ok ts → u ∈ ts)

theorem putOff_of_waits (hk : s.Keyed) (ht : s.task? id = some t) (hw : t.Waits next)
    {since due : Int} (hle : since ≤ due) (hnext : ∀ now : Instant, since ≤ now.toInt →
      next.all (· ≤ now) = decide (due ≤ now.toInt)) : s.PutOff id since due := by
  have hshut : ∀ now : Instant, since ≤ now.toInt → now.toInt < due →
      t.isClaimable now = false := by
    intro now hsince hbefore
    rw [hw.isClaimable, hnext now hsince, decide_eq_false (by omega), Bool.and_false]
  constructor
  case hidden =>
    intro now hsince hbefore types limit ts hts u hu hid
    obtain ⟨hfound, hopen⟩ := mem_claimable hk hts hu
    rw [hid, ht] at hfound
    cases hfound
    rw [Task.isOpenTo, hshut now hsince hbefore] at hopen
    cases hopen
  case refused =>
    intro now hsince hbefore worker
    exact claim_refused hk ht (hshut now hsince hbefore)
  case opened =>
    refine ⟨t, ht, fun hcancelled now hdue => ?_⟩
    have hclaimable : t.isClaimable now = true := by
      rw [hw.isClaimable, hnext now (by omega), decide_eq_true hdue, hcancelled]
      rfl
    refine ⟨fun worker => ?_, fun types limit htype hsize => ⟨fun hr => ?_, fun ts hts => ?_⟩⟩
    · obtain ⟨s', hs', -⟩ : ∃ s', s.claim id worker now = _ ∧ _ := claim_accepted ht hclaimable
      rw [hs']
    · exact exists_claimable hr types limit now
    · rw [claimable_whole hts hsize]
      refine List.mem_mergeSort.mpr (List.mem_filter.mpr ⟨?_, ?_⟩)
      · exact hk.mem_readable.mpr (by rw [id_of_task? ht]; exact ht)
      · rw [Task.isOpenTo, hclaimable, htype]
        rfl

/-! ## Main statement -/

/-- What a policy decides about a failure that backs off, when it is recorded in time. -/
theorem settle_backoff {settings : RetrySettings}
    (hbase : settings.baseBackoffSecs.toNat ≤ 2 ^ 40)
    (hmax : settings.maxBackoffSecs.toNat ≤ 2 ^ 40) {v r : Task} (hrunning : v.status = .running)
    (hcount : v.attemptCount = r.attemptCount) {outcome : Outcome}
    (hcategory : RetryPolicy.categoryOf outcome = .flakyOrNetwork ∨
      RetryPolicy.categoryOf outcome = .timeout) {decision : Decision} {made : Instant}
    (hmade : (RetryPolicy.ofSettings settings).decide r outcome made = decision)
    {reflection : Reflection} {delay : Int64} (hretry : decision = .retry reflection delay)
    {now : Instant} (h0 : 0 ≤ now.toInt) (hnow : now.toInt ≤ 2 ^ 60) :
    ∃ next u, v.settle r.attemptCount decision now = .ok (.transitioned .pending, u) ∧
      u.Waits next ∧ ∀ later : Instant, now.toInt ≤ later.toInt → next.all (· ≤ later) =
        decide (now.toInt + settings.delay r.attemptCount.toNat ≤ later.toInt) := by
  subst hretry
  have hbackoff : (RetryPolicy.categoryOf outcome).rule.delay = .backoff := by
    rcases hcategory with hc | hc <;> rw [hc] <;> rfl
  have hdelay := Task.delay_of_decide hmade
  rw [hbackoff, RetrySettings.delayFor_backoff hbase] at hdelay
  have hle := settings.delay_le r.attemptCount.toNat
  obtain ⟨next, hnext, hlater⟩ := Task.delayed_span (d := settings.delay r.attemptCount.toNat) h0
    (by rw [Int64.toInt_maxValue]; omega)
  have hsettle : v.settle r.attemptCount (.retry reflection delay) now = _ :=
    Task.settle_running ⟨hrunning, hcount⟩
  simp only [Task.noted, hdelay, hnext] at hsettle
  exact ⟨next, _, hdelay ▸ hsettle, ⟨rfl, rfl⟩, hlater⟩

/-- **Backoff is honoured end to end.** Once the retry of an attempt is recorded, whatever is asked
of the store, the task is put off by the delay of that attempt until somebody claims it. The delay
is the one that is asked for up to the seventeenth attempt, and after it as long as the greatest
delay is reached by doubling that often. -/
theorem backoff_honoured {settings : RetrySettings}
    (hbase : settings.baseBackoffSecs.toNat ≤ 2 ^ 40)
    (hmax : settings.maxBackoffSecs.toNat ≤ 2 ^ 40) {s : Store} (hk : s.Keyed) {id : TaskId}
    {v r : Task} (hv : s.task? id = some v) (hrunning : v.status = .running)
    (hcount : v.attemptCount = r.attemptCount) {outcome : Outcome}
    (hcategory : RetryPolicy.categoryOf outcome = .flakyOrNetwork ∨
      RetryPolicy.categoryOf outcome = .timeout) {decision : Decision} {made : Instant}
    (hmade : (RetryPolicy.ofSettings settings).decide r outcome made = decision)
    {reflection : Reflection} {delay : Int64} (hretry : decision = .retry reflection delay)
    {now : Instant} (h0 : 0 ≤ now.toInt) (hnow : now.toInt ≤ 2 ^ 60) :
    (r.attemptCount.toNat ≤ 17 ∨
        settings.maxBackoffSecs.toNat ≤ settings.baseBackoffSecs.toNat * 2 ^ 16 →
      settings.delay r.attemptCount.toNat = settings.backoff r.attemptCount.toNat) ∧
    ∃ u s', s.recordOutcome id r.attemptCount decision now =
        (.ok (.transitioned .pending, u), s') ∧
      ∀ history : History, history.isFresh s' = true →
        (∀ m ∈ s'.trace history, m.wins id = false) →
        (s'.run history).PutOff id now.toInt
          (now.toInt + settings.delay r.attemptCount.toNat) := by
  refine ⟨RetrySettings.delay_eq_backoff, ?_⟩
  obtain ⟨next, u, hu, hwaits, hnext⟩ :=
    settle_backoff hbase hmax hrunning hcount hcategory hmade hretry h0 hnow
  obtain ⟨s', hs', hreplaces⟩ := recordOutcome_accepted hv hu
  refine ⟨u, s', hs', fun history hfresh hlost => ?_⟩
  have hid : u.id = id := (Task.settle_eq_ok hu).1.keeps.1.trans (id_of_task? hv)
  have hfound : s'.task? id = some u := hid ▸ hreplaces.puts.self
  obtain ⟨hkeyed, w, hw, hwaits'⟩ :=
    waits_run (hk.of_ids hreplaces.puts.ids) hfresh hfound hwaits hlost
  exact putOff_of_waits hkeyed hw hwaits' (by omega) hnext

/-- A task that runs its attempt of a number. -/
def attempted (attempt maxAttempts : UInt32) : Task :=
  { Task.create "a" ⟨.impl, "build", none, none⟩ maxAttempts 0 with
    status := .running, attemptCount := attempt, claimedBy := some "w" }

/-- The second attempt is cut off, and somebody tries in vain to claim the task at once. -/
theorem backoff_honoured_cut_off :
    let store : Store := .memory { tasks := [attempted 2 3] }
    let decision := (RetryPolicy.ofSettings {}).decide (attempted 2 3) (.cutOff 60000) 1000
    let history : History := [(1000, .claim "a" "x"),
      (1500, .create "b" ⟨.test, "try", none, none⟩ 1), (3000, .claim "b" "x"),
      (10999, .reclaimStale 10000)]
    store.Keyed ∧ store.task? "a" = some (attempted 2 3) ∧
      ∃ u s', store.recordOutcome "a" 2 decision 1000 = (.ok (.transitioned .pending, u), s') ∧
        (s'.run history).PutOff "a" 1000 11000 := by
  intro store decision history
  have hk : store.Keyed := by decide
  have hfound : store.task? "a" = some (attempted 2 3) := rfl
  have hmade : (RetryPolicy.ofSettings {}).decide (attempted 2 3) (.cutOff 60000) 1000 = decision :=
    rfl
  have htime : 0 ≤ (1000 : Instant).toInt := by decide
  obtain ⟨-, u, s', hs', hputs⟩ := backoff_honoured (by decide) (by decide) hk hfound rfl rfl
    (.inr rfl) hmade rfl htime (by decide)
  obtain rfl : s' = (store.recordOutcome "a" 2 decision 1000).2 := (congrArg Prod.snd hs').symm
  exact ⟨hk, hfound, u, _, hs', hputs history (by decide +kernel) (by decide +kernel)⟩

/-- The delays of one second that doubles up to two days. -/
def slow : RetrySettings := { baseBackoffSecs := 1, maxBackoffSecs := 172800 }

/-- After the eighteenth attempt a task is asked to wait 131072 seconds, and is claimed after half
of them. -/
theorem doubling_ends :
    let s := (memory { tasks := [attempted 18 30] }).recordOutcome "a" 18
      ((RetryPolicy.ofSettings slow).decide (attempted 18 30) (.cutOff 60000) 0) 0
    slow.backoff 18 = 131072000 ∧
      (∃ u, s.1 = .ok (.transitioned .pending, u) ∧ u.reflections.map (·.category) = [.timeout]) ∧
      (s.2.claimable [] 1 65536000).toOption.map (·.map (·.id)) = some ["a"] ∧
      ∃ u, (s.2.claim "a" "x" 65536000).1 = .ok (.claimed u) :=
  ⟨by decide, ⟨_, rfl, rfl⟩, by decide +kernel, _, rfl⟩

end Store

end TaskPipeline
