import TaskPipeline.Proofs.Dispatch.Finality
import TaskPipeline.Proofs.Store.Attempts
import TaskPipeline.Proofs.Task.Ledger

/-!
# Workers tell of each settlement once, and what is true

Between the call that records an outcome and the notice about it others may have moved the task on.
What a call owes is therefore said about the task as that very call found it and left it
(`Moment.Owes`). `Faithful` says how the journal of one worker goes: a record is followed by the
notice that it owes before anything else is recorded, and nothing else is told. Main statement:
`told_once`, over any number of workers on a floor with anybody else calling the store.
-/

namespace TaskPipeline

/-! ## What is owed -/

namespace Moment

/-- The call settles the attempt that the task `t` runs, and makes `u` of it. -/
structure Concludes (m : Moment) (t u : Task) : Prop where
  settles : m.Settles t.id t.attemptCount
  was : m.was t.id = some t
  left : m.left t.id = some u
  running : t.status = .running
  id_eq : u.id = t.id
  attemptCount : u.attemptCount = t.attemptCount

/-- What is to be told after a call that records an outcome. -/
inductive Owes (m : Moment) : Option Notice → Prop where
  | completed {t u : Task} : m.Concludes t u → u.status = .completed →
      Owes m (some (.taskCompleted u.id u.attemptCount))
  | failed {t u : Task} {r : Reflection} : m.Concludes t u → u.status = .failed →
      u.reflections = t.reflections ++ [r] → r.nextAction ≠ "" →
      Owes m (some (.taskFailed u.id (some r.category) (some r.nextAction)))
  | needsDecision {t u : Task} {r : Reflection} : m.Concludes t u → u.status = .needsDecision →
      u.reflections = t.reflections ++ [r] → r.nextAction ≠ "" →
      Owes m (some (.taskNeedsDecision u.id (some r.category) (some r.nextAction)))
  | requeued {t u : Task} : m.Concludes t u → u.status = .pending → Owes m none
  | duplicate {t : Task} : m.reply = .ok (.settled .duplicate t) →
      (∀ id, m.left id = m.was id) → Owes m none
  | refused {e : StoreError} : m.reply = .error e → m.after = m.before → Owes m none

/-- The notice about a task that an explained decision has just settled is the one that is owed. -/
theorem Concludes.owes {m : Moment} {t u : Task} (h : m.Concludes t u) {decision : Decision}
    (hsettle : t.settle t.attemptCount decision m.now = .ok (.transitioned decision.target, u))
    (hexplained : ∀ r, decision.reflection? = some r → r.Explained) :
    m.Owes (Notice.ofTask? u) := by
  rw [Task.settle_running ⟨h.running, rfl⟩] at hsettle
  obtain ⟨v, hv, hpair⟩ := Task.map_eq_ok.mp hsettle
  cases hpair
  cases decision with
  | complete output => exact .completed h rfl
  | retry r delay => exact .requeued h rfl
  | fail r =>
    cases hv
    have howes := Owes.failed h rfl rfl (hexplained r rfl).2.1
    simpa [Notice.ofTask?, Decision.target, Task.lastReflection, Task.reflect] using howes
  | escalate r =>
    cases hv
    have howes := Owes.needsDecision h rfl rfl (hexplained r rfl).2.1
    simpa [Notice.ofTask?, Decision.target, Task.lastReflection, Task.reflect] using howes

end Moment

/-! ## Calls of the store -/

namespace Store

variable {s : Store} {id i : TaskId} {attempt n : UInt32} {decision : Decision} {now : Instant}

/-- No call reopens an attempt that is over. -/
theorem over_perform (hk : s.Keyed) {c : Call} (hc : c.isFresh s = true) (now : Instant)
    (h : Over attempt (s.task? id)) : Over attempt ((s.perform now c).2.task? id) := by
  obtain ⟨t, ht, hover⟩ := h
  obtain ⟨u, hu, hgrows⟩ := grows_perform hk c (Call.unused_of_isFresh hc) now ht
  rw [hu]
  exact hgrows.over ⟨t, rfl, hover⟩

/-- A record that settles an attempt finds it running and leaves it over. -/
theorem settles_recordOutcome
    (h : (s.moment now (.recordOutcome i n decision)).Settles id attempt) :
    Running attempt (s.task? id) ∧
      Over attempt ((s.recordOutcome i n decision now).2.task? id) := by
  rcases h with ⟨_, _, _, hcall, hreply⟩ | ⟨_, _, _, hcall, _⟩
  · cases hcall
    rcases recordOutcome_cases s id attempt decision now with
      ⟨e, hrecord⟩ | ⟨t, u, a, s', ht, hsettle, hputs, hrecord⟩
    · simp [moment, perform, answered, hrecord, Except.map] at hreply
    · obtain ⟨hmoves, ⟨rfl, _⟩ | ⟨_, hrunning⟩⟩ := Task.settle_eq_ok hsettle
      · simp [moment, perform, answered, hrecord, Except.map] at hreply
      · have hid : u.id = id := hmoves.keeps.1.trans (id_of_task? ht)
        rw [hrecord]
        exact ⟨⟨t, ht, hrunning⟩, u, hid ▸ hputs.self, .inr (hmoves.settled hrunning)⟩
  · cases hcall

/-- **A record owes the notice about the task that it is answered with**, if the decision took
effect, and otherwise none. -/
theorem owes_recordOutcome (s : Store) (i : TaskId) (n : UInt32) (decision : Decision)
    (now : Instant) (hexplained : ∀ r, decision.reflection? = some r → r.Explained) :
    (s.moment now (.recordOutcome i n decision)).Owes
      (match (s.recordOutcome i n decision now).1 with
      | .ok (.transitioned _, u) => Notice.ofTask? u
      | _ => none) := by
  rcases recordOutcome_cases s i n decision now with
    ⟨e, hrecord⟩ | ⟨t, u, a, s', ht, hsettle, hputs, hrecord⟩
  · rw [hrecord]
    refine .refused (e := e) ?_ ?_ <;> simp [moment, perform, answered, hrecord, Except.map]
  · have hreply : (s.moment now (.recordOutcome i n decision)).reply = .ok (.settled a u) := by
      simp [moment, perform, answered, hrecord, Except.map]
    have hafter : (s.moment now (.recordOutcome i n decision)).after = s' := by
      simp [moment, perform, answered, hrecord]
    obtain rfl := id_of_task? ht
    rw [hrecord]
    obtain ⟨hmoves, ⟨rfl, hlate⟩ | ⟨rfl, hrunning, rfl⟩⟩ := Task.settle_eq_ok hsettle
    · cases hsettle.symm.trans (Task.settle_late hlate)
      refine .duplicate hreply fun j => ?_
      rw [Moment.left, hafter, hputs.task?]
      exact congrFun (Function.update_eq_self_iff.mpr ht.symm) j
    · have hconcludes :
          (s.moment now (.recordOutcome t.id t.attemptCount decision)).Concludes t u :=
        { settles := .inl ⟨decision, _, u, rfl, hreply⟩
          was := ht
          left := by rw [Moment.left, hafter, ← hmoves.keeps.1]; exact hputs.self
          running := hrunning
          id_eq := hmoves.keeps.1
          attemptCount := (hmoves.settled ⟨hrunning, rfl⟩).1 }
      exact hconcludes.owes hsettle hexplained

end Store

/-! ## Workers -/

/-- What a worker does that counts for a report. -/
inductive JournalEntry where
  /-- It records the outcome of an attempt. -/
  | records (m : Moment)
  /-- It sends a notice. -/
  | tells (n : Notice)

def JournalEntry.record? : JournalEntry → Option Moment
  | records m => some m
  | tells _ => none

/-- What a poll has still to tell. -/
def Poll.owed : Poll → Option Notice
  | .telling u => Notice.ofTask? u
  | _ => none

theorem Poll.owed_abandon (e : StoreError) : (Poll.abandon e).owed = none := by
  cases e <;> rfl

namespace Poll

variable (p : DispatchPolicy) (worker : WorkerId) (c : Clocks) (w : Workplace)

/-- A poll that neither records nor tells leaves the notices as they are and owes none. -/
theorem silent_step {poll : Poll} (hsettling : ∀ r outcome, poll ≠ settling r outcome)
    (htelling : ∀ u, poll ≠ telling u) :
    (poll.step p worker c w).1.owed = none ∧ (poll.step p worker c w).2.notices = w.notices := by
  cases poll with
  | gating =>
    simp only [step, gate]
    cases w.gatePanics with
    | zero => cases w.gateOpen <;> exact ⟨rfl, rfl⟩
    | succ => exact ⟨rfl, rfl⟩
  | querying => simp only [step]; split <;> exact ⟨rfl, rfl⟩
  | claiming candidates =>
    cases candidates with
    | nil => exact ⟨rfl, rfl⟩
    | cons t rest => simp only [step, claimFirst]; split <;> exact ⟨rfl, rfl⟩
  | starting t => simp only [step]; split <;> [exact ⟨rfl, rfl⟩; exact ⟨owed_abandon _, rfl⟩]
  | launching t => simp only [step]; split <;> [exact ⟨rfl, rfl⟩; (split <;> exact ⟨rfl, rfl⟩)]
  | attempting a beat =>
    simp only [step, attend, giveSign]
    split <;> [exact ⟨rfl, rfl⟩; (split <;> exact ⟨rfl, rfl⟩)]
  | settling r outcome => exact absurd rfl (hsettling r outcome)
  | telling u => exact absurd rfl (htelling u)
  | ended | crashed => exact ⟨rfl, rfl⟩

/-- Only a poll that settles its task records an outcome. -/
theorem settling_of_call? {poll : Poll} {i : TaskId} {n : UInt32} {decision : Decision}
    (h : poll.call? worker c w = some (.recordOutcome i n decision)) :
    ∃ r outcome, poll = settling r outcome := by
  unfold call? at h
  split at h
  · cases h
  · cases h
  · split at h <;> cases h
  · exact ⟨_, _, rfl⟩
  · cases h

/-- A poll that has recorded an outcome owes the notice about the task that it was answered with. -/
theorem settling_step (r : Task) (outcome : Outcome) :
    (step p worker c (settling r outcome) w).2.notices = w.notices ∧
    (step p worker c (settling r outcome) w).1.owed =
      match (w.store.recordOutcome r.id r.attemptCount (w.policy.decide r outcome c.now) c.now).1
      with
      | .ok (.transitioned _, u) => Notice.ofTask? u
      | _ => none := by
  simp only [step, settle]
  rcases w.store.recordOutcome r.id r.attemptCount (w.policy.decide r outcome c.now) c.now with
    ⟨e | ⟨_ | _, u⟩, s⟩
  · exact ⟨rfl, owed_abandon e⟩
  · exact ⟨rfl, rfl⟩
  · exact ⟨rfl, rfl⟩

end Poll

/-- How the journal of one worker goes, and which notice is still to come: after each record comes
the notice that it owes, before anything else, and no other notice comes. -/
inductive Faithful : List JournalEntry → Option Notice → Prop where
  | blank : Faithful [] none
  | records {entries : List JournalEntry} {m : Moment} {owed : Option Notice} :
      Faithful entries none → m.Owes owed → Faithful (entries ++ [.records m]) owed
  | tells {entries : List JournalEntry} {n : Notice} :
      Faithful entries (some n) → Faithful (entries ++ [.tells n]) none

namespace Worker

/-- The outcome that a worker records in its next step, if it records one. -/
def record? (x : Worker) (c : Clocks) (w : Workplace) : Option Moment :=
  match x.phase with
  | .polling poll =>
    match poll.call? x.id c w with
    | some (.recordOutcome i n decision) =>
      some (w.store.moment c.now (.recordOutcome i n decision))
    | _ => none
  | _ => none

/-- What a worker does in its next step that counts for a report. -/
def entries (x : Worker) (c : Clocks) (w : Workplace) : List JournalEntry :=
  ((x.record? c w).map .records).toList ++
    ((x.step c w).2.notices.drop w.notices.length).map .tells

/-- What a worker has still to tell. -/
def owed (x : Worker) : Option Notice :=
  match x.phase with
  | .polling poll => poll.owed
  | _ => none

variable {x : Worker} {c : Clocks} {w : Workplace}

theorem records_entries (x : Worker) (c : Clocks) (w : Workplace) :
    (x.entries c w).filterMap JournalEntry.record? = (x.record? c w).toList := by
  have htold (notices : List Notice) :
      (notices.map JournalEntry.tells).filterMap JournalEntry.record? = [] := by
    simp [List.filterMap_map, Function.comp_def, JournalEntry.record?]
  rw [entries, List.filterMap_append, htold, List.append_nil]
  cases x.record? c w <;> rfl

/-- A record is what a step makes of the store when the poll settles its task. -/
theorem record?_eq_some {m : Moment} (h : x.record? c w = some m) :
    ∃ r outcome i n decision, x.phase = .polling (.settling r outcome) ∧
      m = w.store.moment c.now (.recordOutcome i n decision) ∧
      (x.step c w).2.store = (w.store.recordOutcome i n decision c.now).2 := by
  unfold record? at h
  split at h
  · next poll hp =>
    split at h
    · next i n decision hcall =>
      cases h
      obtain ⟨r, outcome, rfl⟩ := Poll.settling_of_call? _ _ _ hcall
      refine ⟨r, outcome, i, n, decision, hp, rfl, ?_⟩
      simp only [step_polling hp (by simp) (by simp), Poll.store_step, hcall]
      rfl
    · cases h
  · cases h

theorem entries_nil (hrecord : x.record? c w = none)
    (hnotices : (x.step c w).2.notices = w.notices) : x.entries c w = [] := by
  rw [entries, hrecord, hnotices, List.drop_length]
  rfl

theorem record?_none (h : ∀ r outcome, x.phase ≠ .polling (.settling r outcome)) :
    x.record? c w = none := by
  cases hrecord : x.record? c w with
  | none => rfl
  | some m =>
    obtain ⟨r, outcome, _, _, _, hp, _⟩ := record?_eq_some hrecord
    exact absurd hp (h r outcome)

theorem owed_none (h : ∀ u, x.phase ≠ .polling (.telling u)) : x.owed = none := by
  unfold owed Poll.owed
  split
  · next poll hp =>
    split
    · next u => exact absurd hp (h u)
    · rfl
  · rfl

/-- A worker that neither records nor tells does nothing that counts. -/
theorem entries_silent (hsettling : ∀ r outcome, x.phase ≠ .polling (.settling r outcome))
    (htelling : ∀ u, x.phase ≠ .polling (.telling u)) :
    x.owed = none ∧ x.entries c w = [] ∧ (x.step c w).1.owed = none := by
  have hsilent : (x.step c w).1.owed = none ∧ (x.step c w).2.notices = w.notices := by
    rcases x.step_cases c w with ⟨hplace, hnothing⟩ | ⟨poll, hp, hstep⟩
    · refine ⟨owed_none fun u hu => ?_, by rw [hplace]⟩
      rw [tasks, hu] at hnothing
      cases hnothing
    · rw [hstep]
      exact Poll.silent_step x.policy x.id c w (fun r outcome he => hsettling r outcome (he ▸ hp))
        (fun u he => htelling u (he ▸ hp))
  exact ⟨owed_none htelling, entries_nil (record?_none hsettling) hsilent.2, hsilent.1⟩

/-- A worker that records an outcome has to tell what that record owes. -/
theorem entries_settling {r : Task} {outcome : Outcome}
    (hp : x.phase = .polling (.settling r outcome)) :
    ∃ m : Moment, x.entries c w = [.records m] ∧ m.Owes (x.step c w).1.owed := by
  have hstep := step_polling (c := c) (w := w) hp (by simp) (by simp)
  obtain ⟨hnotices, howed⟩ := Poll.settling_step x.policy x.id c w r outcome
  refine ⟨w.store.moment c.now
    (.recordOutcome r.id r.attemptCount (w.policy.decide r outcome c.now)), ?_, ?_⟩
  · rw [entries, hstep, hnotices, List.drop_length]
    simp [record?, hp, Poll.call?]
  · rw [hstep]
    simp only [owed, howed]
    exact Store.owes_recordOutcome _ _ _ _ _ fun q hq => (RetryPolicy.reflection_decide hq).2.2

/-- A worker that has something to tell tells it in its next step, and nothing else. -/
theorem entries_telling {u : Task} (hp : x.phase = .polling (.telling u)) :
    x.entries c w = ((Notice.ofTask? u).map .tells).toList ∧ (x.step c w).1.owed = none := by
  have hstep := step_polling (c := c) (w := w) hp (by simp) (by simp)
  rw [entries, hstep]
  refine ⟨?_, rfl⟩
  simp only [record?, hp, Poll.call?, Poll.step, Workplace.tell, List.drop_left]
  cases Notice.ofTask? u <;> rfl

/-- **The journal of a worker stays in order with each of its steps.** -/
theorem faithful_step {entries : List JournalEntry} (h : Faithful entries x.owed) (c : Clocks)
    (w : Workplace) : Faithful (entries ++ x.entries c w) (x.step c w).1.owed := by
  by_cases hsettling : ∃ r outcome, x.phase = .polling (.settling r outcome)
  · obtain ⟨r, outcome, hp⟩ := hsettling
    obtain ⟨m, hentries, howes⟩ := entries_settling (c := c) (w := w) hp
    have howed : x.owed = none := owed_none fun u hu => nomatch hp.symm.trans hu
    rw [hentries]
    exact .records (howed ▸ h) howes
  by_cases htelling : ∃ u, x.phase = .polling (.telling u)
  · obtain ⟨u, hp⟩ := htelling
    obtain ⟨hentries, hnone⟩ := entries_telling (c := c) (w := w) hp
    have howed : x.owed = Notice.ofTask? u := by simp [owed, hp, Poll.owed]
    rw [howed] at h
    rw [hentries, hnone]
    cases hn : Notice.ofTask? u with
    | none => simpa [hn] using h
    | some n => exact .tells (hn ▸ h)
  · obtain ⟨howed, hentries, hnone⟩ := entries_silent (c := c) (w := w)
      (fun r outcome hp => hsettling ⟨r, outcome, hp⟩) (fun u hp => htelling ⟨u, hp⟩)
    rw [hentries, hnone, List.append_nil]
    exact howed ▸ h

/-- What a worker owes is told in its next step, whatever has happened meanwhile. -/
theorem entries_of_owed {n : Notice} (h : x.owed = some n) (c : Clocks) (w : Workplace) :
    x.entries c w = [.tells n] := by
  unfold owed Poll.owed at h
  split at h
  · next poll hp =>
    split at h
    · next u =>
      rw [(entries_telling hp).1, h]
      rfl
    · cases h
  · cases h

end Worker

/-! ## Floors -/

/-- What workers do that counts for a report, in order, each entry with the number of the worker. -/
abbrev Journal := List (Nat × JournalEntry)

namespace Journal

/-- The entries of one worker. -/
def of (i : Nat) (journal : Journal) : List JournalEntry :=
  journal.filterMap fun e => if e.1 = i then some e.2 else none

/-- The calls that record outcomes, whoever makes them. -/
def records (journal : Journal) : List Moment :=
  journal.filterMap fun e => e.2.record?

variable {i j : Nat} {journal journal' : Journal} {entries : List JournalEntry}

theorem of_append : (journal ++ journal').of i = journal.of i ++ journal'.of i :=
  List.filterMap_append

theorem records_append : (journal ++ journal').records = journal.records ++ journal'.records :=
  List.filterMap_append

/-- What one worker enters is in its own journal and in no other one. -/
theorem of_map : of i (entries.map (j, ·)) = if j = i then entries else [] := by
  rw [of, List.filterMap_map]
  split <;> simp [*]

theorem records_map : records (entries.map (j, ·)) = entries.filterMap JournalEntry.record? := by
  rw [records, List.filterMap_map]
  rfl

end Journal

namespace Floor

/-- What an event enters in the journal. -/
def entries (f : Floor) : FloorEvent → Journal
  | .work i c =>
    match f.workers[i]? with
    | some x => (x.entries c f.place).map (i, ·)
    | none => []
  | _ => []

/-- What several events enter in the journal. -/
def journal (f : Floor) : List FloorEvent → Journal
  | [] => []
  | event :: events =>
    f.entries event ++
      match f.step event with
      | some f' => f'.journal events
      | none => []

/-- What a worker has still to tell. -/
def owed (f : Floor) (i : Nat) : Option Notice := f.workers[i]? >>= Worker.owed

/-- No worker is made to give up while it has something to tell. -/
def Unbroken (f : Floor) : List FloorEvent → Prop
  | [] => True
  | event :: events =>
    (∀ i, event = .poll i → f.owed i = none) ∧ ∀ f', f.step event = some f' → f'.Unbroken events

/-- What a floor has come to with a journal. -/
structure Books (f : Floor) (journal : Journal) : Prop where
  /-- Each worker has told what it had to tell, or is about to tell it. -/
  faithful : ∀ i, Faithful (journal.of i) (f.owed i)
  /-- No two records settle one attempt. -/
  once : journal.records.Pairwise fun m n => ∀ id attempt, m.Settles id attempt →
    ¬n.Settles id attempt
  /-- What is recorded is over. -/
  settled : ∀ m ∈ journal.records, ∀ id attempt, m.Settles id attempt →
    Over attempt (f.place.store.task? id)

variable {f f' : Floor} {journal : Journal}

/-! ### One event -/

section Step

variable {event : FloorEvent}

/-- Of what the workers owe only that of one changes when this one does something. -/
theorem owed_after {i : Nat} {x : Worker} (hx : f.workers[i]? = some x)
    (step : Worker × Workplace) (j : Nat) :
    (f.after i step).owed j = if i = j then step.1.owed else f.owed j := by
  have hi : i < f.workers.length := (List.getElem?_eq_some_iff.mp hx).1
  by_cases hj : i = j
  · subst hj
    simp [owed, after, hi]
  · simp [owed, after, hj, List.getElem?_set_ne hj]

theorem entries_work {i : Nat} {x : Worker} (hx : f.workers[i]? = some x) (c : Clocks) :
    f.entries (.work i c) = (x.entries c f.place).map (i, ·) := by
  simp only [entries, hx]

theorem entries_nil (hwork : ∀ j c, event ≠ .work j c) : f.entries event = [] := by
  cases event with
  | work j c => exact absurd rfl (hwork j c)
  | _ => rfl

/-- Only the step of a worker changes what is owed, if no worker is made to give up. -/
theorem owed_step (hwork : ∀ j c, event ≠ .work j c)
    (hpoll : ∀ i, event = .poll i → f.owed i = none) (hf' : f.step event = some f') (i : Nat) :
    f'.owed i = f.owed i := by
  cases event with
  | work j c => exact absurd rfl (hwork j c)
  | poll j =>
    obtain ⟨x, hx, hf'⟩ := Option.bind_eq_some_iff.mp hf'
    cases hf'
    rw [owed_after hx]
    split
    · next hj => rw [← hj, hpoll j rfl]; rfl
    · rfl
  | shutdown j =>
    obtain ⟨x, hx, hf'⟩ := Option.bind_eq_some_iff.mp hf'
    cases hf'
    rw [owed_after hx]
    split
    · next hj => rw [← hj, owed, hx]; rfl
    · rfl
  | call now c =>
    simp only [step] at hf'
    split at hf' <;> cases hf'
    rfl
  | equip place => cases hf'; rfl

theorem faithful_step (h : ∀ i, Faithful (journal.of i) (f.owed i))
    (hpoll : ∀ i, event = .poll i → f.owed i = none) (hf' : f.step event = some f') (i : Nat) :
    Faithful ((journal ++ f.entries event).of i) (f'.owed i) := by
  by_cases hwork : ∃ j c, event = .work j c
  · obtain ⟨j, c, rfl⟩ := hwork
    obtain ⟨x, hx, hf'⟩ := Option.bind_eq_some_iff.mp hf'
    cases hf'
    rw [Journal.of_append, owed_after hx, entries_work hx, Journal.of_map]
    split
    · next hj =>
      have howed : f.owed i = x.owed := by rw [owed, ← hj, hx]; rfl
      exact x.faithful_step (howed ▸ h i) c f.place
    · rw [List.append_nil]
      exact h i
  · have hwork : ∀ j c, event ≠ .work j c := fun j c he => hwork ⟨j, c, he⟩
    rw [owed_step hwork hpoll hf', entries_nil hwork, List.append_nil]
    exact h i

/-- An event enters at most one record, which is the call that it makes. -/
theorem records_step (hf' : f.step event = some f') :
    (f.entries event).records = [] ∨ ∃ now i n decision,
      (f.entries event).records = [f.place.store.moment now (.recordOutcome i n decision)] ∧
      f'.place.store = (f.place.store.recordOutcome i n decision now).2 := by
  by_cases hwork : ∃ j c, event = .work j c
  · obtain ⟨j, c, rfl⟩ := hwork
    obtain ⟨x, hx, hf'⟩ := Option.bind_eq_some_iff.mp hf'
    cases hf'
    rw [entries_work hx, Journal.records_map, x.records_entries]
    cases hrecord : x.record? c f.place with
    | none => exact .inl rfl
    | some m =>
      obtain ⟨_, _, i, n, decision, _, rfl, hstore⟩ := Worker.record?_eq_some hrecord
      exact .inr ⟨c.now, i, n, decision, rfl, hstore⟩
  · exact .inl (by rw [entries_nil fun j c he => hwork ⟨j, c, he⟩]; rfl)

theorem over_step (hk : f.place.store.Keyed) (hf' : f.step event = some f') {id : TaskId}
    {attempt : UInt32} (h : Over attempt (f.place.store.task? id)) :
    Over attempt (f'.place.store.task? id) := by
  rcases store_step hf' with hstore | ⟨now, c, hfresh, hstore⟩
  · rw [hstore]
    exact h
  · rw [hstore]
    exact Store.over_perform hk hfresh now h

end Step

/-- What is recorded in one step was not settled before, and is over from then on. -/
theorem Books.step (h : f.Books journal) (hk : f.place.store.Keyed) {event : FloorEvent}
    (hpoll : ∀ i, event = .poll i → f.owed i = none) (hf' : f.step event = some f') :
    f'.Books (journal ++ f.entries event) where
  faithful := faithful_step h.faithful hpoll hf'
  once := by
    rw [Journal.records_append, List.pairwise_append]
    rcases records_step hf' with hnone | ⟨now, i, n, decision, hone, _⟩
    · rw [hnone]
      exact ⟨h.once, .nil, fun _ _ _ hn => nomatch hn⟩
    · rw [hone]
      refine ⟨h.once, List.pairwise_singleton _ _, fun m hm k hn id attempt hsettled hagain => ?_⟩
      rw [List.mem_singleton.mp hn] at hagain
      exact not_running_of_over (h.settled m hm id attempt hsettled)
        (Store.settles_recordOutcome hagain).1
  settled m hm id attempt hsettled := by
    rw [Journal.records_append] at hm
    rcases List.mem_append.mp hm with hm | hm
    · exact over_step hk hf' (h.settled m hm id attempt hsettled)
    rcases records_step hf' with hnone | ⟨now, i, n, decision, hone, hstore⟩
    · rw [hnone] at hm
      cases hm
    · rw [hone, List.mem_singleton] at hm
      rw [hm] at hsettled
      rw [hstore]
      exact (Store.settles_recordOutcome hsettled).2

theorem Books.run (h : f.Books journal) (hk : f.place.store.Keyed) {events : List FloorEvent}
    (hunbroken : f.Unbroken events) (hf' : f.run events = some f') :
    f'.Books (journal ++ f.journal events) := by
  induction events generalizing f journal with
  | nil =>
    cases hf'
    rw [Floor.journal, List.append_nil]
    exact h
  | cons event events ih =>
    obtain ⟨f₁, hf₁, hf'⟩ := Option.bind_eq_some_iff.mp hf'
    have hbooks := ih (h.step hk hunbroken.1 hf₁) (keyed_step hk hf₁) (hunbroken.2 f₁ hf₁) hf'
    simpa only [Floor.journal, hf₁, List.append_assoc] using hbooks

/-! ### Main statement -/

/-- Where no worker is made to give up at all, none is while it has something to tell. -/
theorem unbroken_of_no_poll {events : List FloorEvent} (h : ∀ i, .poll i ∉ events) :
    f.Unbroken events := by
  induction events generalizing f with
  | nil => trivial
  | cons event events ih =>
    exact ⟨fun i he => absurd (he ▸ List.mem_cons_self) (h i),
      fun _ _ => ih fun i hi => h i (List.mem_cons_of_mem _ hi)⟩

theorem Books.blank (h : ∀ i, f.owed i = none) : f.Books [] where
  faithful i := by rw [h i]; exact .blank
  once := .nil
  settled _ hm := nomatch hm

/-- **Workers tell of each settlement once, and what is true.** However the steps of any workers and
the calls of others are interleaved, each outcome that a worker records is followed by the notice
that this record owes and by no other, and a worker that has still something to tell tells it in its
next step, whatever has become of the task. No two records settle one attempt, so no attempt is told
of twice. -/
theorem told_once (hk : f.place.store.Keyed) (hquiet : ∀ i, f.owed i = none)
    {events : List FloorEvent} (hunbroken : f.Unbroken events) (hf' : f.run events = some f') :
    f'.Books (f.journal events) ∧
    ∀ i n, f'.owed i = some n → ∃ x, f'.workers[i]? = some x ∧
      ∀ c w, x.entries c w = [.tells n] := by
  refine ⟨(Books.blank hquiet).run hk hunbroken hf', fun i n hn => ?_⟩
  obtain ⟨x, hx, howed⟩ := Option.bind_eq_some_iff.mp hn
  exact ⟨x, hx, Worker.entries_of_owed howed⟩

/-- A success that came with an error waits for a decision, which is made before the worker comes to
tell of it, and another worker is late with the same attempt. -/
theorem told_once_resolved :
    let r : Task := { Task.create "a" ⟨.impl, "build", none, none⟩ 3 0 with
      status := .running, attemptCount := 1, claimedBy := some "w0" }
    let f : Floor := { pair {} (.memory { tasks := [r] }) with
      workers := [
        { id := "w0", policy := .ofSettings {},
          phase := .polling (.settling r ⟨true, "ok", some "but", 5, false⟩) },
        { id := "w1", policy := .ofSettings {},
          phase := .polling (.settling r ⟨true, "ok", none, 5, false⟩) }] }
    let events : List FloorEvent := [.work 0 ⟨10, 0⟩, .call 11 (.resolve "a" .pending none),
      .work 1 ⟨12, 0⟩, .work 0 ⟨13, 0⟩, .work 1 ⟨14, 0⟩]
    f.place.store.Keyed ∧ (∀ i, f.owed i = none) ∧ f.Unbroken events ∧
      ∃ f', f.run events = some f' ∧
        (f'.place.store.task? "a").map (·.status) = some .pending ∧
        f'.place.notices = [.taskNeedsDecision "a" (some .generic)
          (some "Inspect the output and resolve the task to pending or failed by hand")] ∧
        f'.Books (f.journal events) := by
  intro r f events
  have hk : f.place.store.Keyed := by decide
  have hquiet : ∀ i, f.owed i = none := by
    rintro (_ | _ | i) <;> rfl
  have hunbroken : f.Unbroken events := unbroken_of_no_poll (by simp [events])
  have hrun : (f.run events).map (fun f' =>
      ((f'.place.store.task? "a").map (·.status), f'.place.notices)) =
      some (some .pending, [.taskNeedsDecision "a" (some .generic)
        (some "Inspect the output and resolve the task to pending or failed by hand")]) := by
    decide +kernel
  obtain ⟨f', hf', hfacts⟩ := Option.map_eq_some_iff.mp hrun
  obtain ⟨hstatus, hnotices⟩ := Prod.mk.inj hfacts
  exact ⟨hk, hquiet, hunbroken, f', hf', hstatus, hnotices,
    (told_once hk hquiet hunbroken hf').1⟩

end Floor

end TaskPipeline
