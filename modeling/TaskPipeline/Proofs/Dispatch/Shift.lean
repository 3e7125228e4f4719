import Mathlib.Data.Finset.Range
import Mathlib.Order.Filter.AtTopBot.Basic
import Mathlib.Order.Filter.Finite
import TaskPipeline.Proofs.Dispatch.Course

/-!
# The shift of a dispatcher

The workers of a dispatcher are started one after the other, and a gauge counts those whose loops
have not ended. From then on they work on one store, beside anybody else, until the shutdown. The
gauge is right at any time (`Staff.Inv`). A worker that is told of the shutdown comes nearer to its
end with each turn, and nothing takes it back (`rank_le`): it begins at most one more attempt, in
the poll that it is at (`begins_once`), and all workers stop if each gets its turns and each attempt
ends (`Fair.over`).
-/

namespace TaskPipeline

/-- The workers that a dispatcher has started, and what they share. -/
structure Staff where
  policy : DispatchPolicy
  /-- What the ids of the workers begin with. -/
  name : String
  place : Workplace
  workers : List Worker := []
  /-- Up by one before a worker starts, down by one when its loop has ended. -/
  gauge : Nat := 0
  /-- The shutdown has begun. -/
  cancelled : Bool := false

/-- What can happen on a shift. The clocks may say anything. -/
inductive ShiftEvent where
  /-- The next worker is started. -/
  | hire
  /-- A worker does its next step. At the gate this is the end of the check. -/
  | work (i : Nat) (c : Clocks)
  /-- The poll of a worker breaks down. -/
  | panic (i : Nat)
  | cancel
  /-- Somebody else calls the store. -/
  | call (now : Instant) (c : Call)
  /-- Everything but the store is replaced. -/
  | equip (place : Workplace)

/-- In whose name a call claims or starts a task. -/
def Call.claimant? : Call → Option WorkerId
  | .claim _ worker | .start _ worker => some worker
  | _ => none

/-- The worker with its poll broken down, if one is under way. -/
def Worker.breakDown (x : Worker) : Worker :=
  { x with
    phase := match x.phase with
      | .polling poll => .polling (if poll.isOver then poll else .crashed)
      | phase => phase }

/-- The executor works on the attempt of the worker. -/
def Worker.Attempting (x : Worker) : Prop := ∃ a beat, x.phase = .polling (.attempting a beat)

namespace Staff

def idOf (s : Staff) (i : Nat) : WorkerId := s.name ++ toString i

/-- The ids of all workers, of those too that are not started yet. -/
def ids (s : Staff) : List WorkerId := (List.range s.policy.workers).map s.idOf

/-- The worker with a number as it is started. -/
def newcomer (s : Staff) (i : Nat) : Worker where
  id := s.idOf i
  policy := s.policy
  cancelled := s.cancelled

def hire (s : Staff) : Staff :=
  if s.workers.length < s.policy.workers then
    { s with
      gauge := s.gauge + 1
      workers := s.workers ++ [s.newcomer s.workers.length] }
  else s

def work (s : Staff) (i : Nat) (c : Clocks) : Staff :=
  match s.workers[i]? with
  | none => s
  | some x =>
    let (x', place) := x.step c s.place
    { s with
      place := place
      workers := s.workers.set i x'
      gauge := if x.isLive && !x'.isLive then s.gauge - 1 else s.gauge }

/-- Others claim and start nothing in the name of these workers, and store tasks under new ids. -/
def allows (s : Staff) (c : Call) : Bool :=
  c.isFresh s.place.store && !c.claimant?.any s.ids.contains

/-- The staff after an event. What cannot happen changes nothing. -/
def step (s : Staff) : ShiftEvent → Staff
  | .hire => s.hire
  | .work i c => s.work i c
  | .panic i =>
    match s.workers[i]? with
    | none => s
    | some x => { s with workers := s.workers.set i x.breakDown }
  | .cancel =>
    { s with cancelled := true, workers := s.workers.map fun x => { x with cancelled := true } }
  | .call now c =>
    if s.allows c then
      { s with place := { s.place with store := (s.place.store.perform now c).2 } }
    else s
  | .equip place => { s with place := { place with store := s.place.store } }

end Staff

/-- All that happens from the moment when a dispatcher is run. -/
structure Shift where
  policy : DispatchPolicy
  name : String
  place : Workplace
  events : Nat → ShiftEvent

namespace Shift

/-- The staff before an event. -/
def staff (k : Shift) : Nat → Staff
  | 0 => { policy := k.policy, name := k.name, place := k.place }
  | n + 1 => (k.staff n).step (k.events n)

/-- A worker, if it is started by then. -/
def worker? (k : Shift) (i n : Nat) : Option Worker := (k.staff n).workers[i]?

/-- The worker is at a poll. -/
def Polls (k : Shift) (i n : Nat) : Prop :=
  ∃ x poll, k.worker? i n = some x ∧ x.phase = .polling poll

/-- An attempt of the worker is under way. -/
def Attempts (k : Shift) (i n : Nat) : Prop := ∃ x, k.worker? i n = some x ∧ x.Attempting

/-- The worker starts the task that it has claimed, with success. -/
def Begins (k : Shift) (i n : Nat) : Prop :=
  ∃ c x t x' r, k.events n = .work i c ∧ k.worker? i n = some x ∧ x.phase = .polling (.starting t) ∧
    k.worker? i (n + 1) = some x' ∧ x'.phase = .polling (.launching r)

/-- All workers have been started, and their loops have ended. -/
def Over (k : Shift) (n : Nat) : Prop :=
  (k.staff n).workers.length = k.policy.workers ∧ ∀ x ∈ (k.staff n).workers, x.isLive = false

/-- All workers are started, each gets its turns, and each attempt ends. -/
structure Fair (k : Shift) : Prop where
  hires : ∃ n, (k.staff n).workers.length = k.policy.workers
  turns : ∀ i n x, k.worker? i n = some x → x.isLive = true → ∃ l ≥ n, ∃ c, k.events l = .work i c
  attempts : ∀ i n, k.Attempts i n → ∃ l ≥ n, ¬k.Attempts i l

end Shift

/-! ## Events -/

namespace Worker

variable {x : Worker} {c : Clocks} {w : Workplace}

theorem cancelled_step : (x.step c w).1.cancelled = x.cancelled := by
  unfold step
  split <;> try rfl
  split
  · rfl
  · split <;> rfl

theorem isLive_eq_false : x.isLive = false ↔ x.phase = .stopped := by
  unfold isLive
  split
  · next hp => simp [hp]
  · next hp => simp only [Bool.true_eq_false, false_iff]; exact hp

theorem step_stopped (h : x.isLive = false) : x.step c w = (x, w) := by
  simp only [step, isLive_eq_false.mp h]

/-- A poll that is not over does its next step. -/
theorem step_poll {poll : Poll} (hp : x.phase = .polling poll) (hover : poll.isOver = false) :
    x.step c w = ({ x with phase := .polling (poll.step x.policy x.id c w).1 },
      (poll.step x.policy x.id c w).2) := by
  refine step_polling hp ?_ ?_
  · rintro ran rfl
    cases hover
  · rintro rfl
    cases hover

theorem isLive_breakDown : x.breakDown.isLive = x.isLive := by
  unfold breakDown isLive
  cases x.phase <;> rfl

end Worker

namespace Staff

variable {s : Staff} {event : ShiftEvent} {i : Nat}

/-- What an event does to the worker with a number. -/
inductive Fares (s : Staff) (i : Nat) : ShiftEvent → Option Worker → Option Worker → Prop where
  | hired : Fares s i .hire none (some (s.newcomer i))
  | works {x : Worker} {c : Clocks} : Fares s i (.work i c) (some x) (some (x.step c s.place).1)
  | breaks {x : Worker} : Fares s i (.panic i) (some x) (some x.breakDown)
  | told (v : Option Worker) : Fares s i .cancel v (v.map fun x => { x with cancelled := true })
  | stays {event : ShiftEvent} (v : Option Worker) : event ≠ .cancel →
      (∀ c x, event = .work i c → v ≠ some x) → Fares s i event v v

/-- What becomes of the others when a worker is replaced. -/
theorem Fares.of_set {x x' : Worker} {j : Nat} (hj : s.workers[j]? = some x)
    (hself : s.Fares j event (some x) (some x')) (hcancel : event ≠ .cancel)
    (hwork : ∀ c, i ≠ j → event ≠ .work i c) :
    s.Fares i event s.workers[i]? (s.workers.set j x')[i]? := by
  by_cases hi : i = j
  · subst hi
    rw [List.getElem?_set_self (List.getElem?_eq_some_iff.mp hj).1, hj]
    exact hself
  · rw [List.getElem?_set_ne (Ne.symm hi)]
    exact .stays _ hcancel fun c _ he => absurd he (hwork c hi)

theorem fares_hire : s.Fares i .hire s.workers[i]? s.hire.workers[i]? := by
  have hstays : s.Fares i .hire s.workers[i]? s.workers[i]? :=
    .stays _ (by simp) fun c _ he => by cases he
  unfold hire
  split
  · rcases Nat.lt_trichotomy i s.workers.length with hi | rfl | hi
    · rw [List.getElem?_append_left hi]
      exact hstays
    · rw [List.getElem?_concat_length, List.getElem?_eq_none (Nat.le_refl _)]
      exact .hired
    · rw [List.getElem?_eq_none (Nat.le_of_lt hi)] at hstays ⊢
      rw [List.getElem?_eq_none (by rw [List.length_append]; exact hi)]
      exact hstays
  · exact hstays

/-- **Each worker fares as `Fares` says.** -/
theorem fares (s : Staff) (event : ShiftEvent) (i : Nat) :
    s.Fares i event s.workers[i]? (s.step event).workers[i]? := by
  cases event with
  | hire => exact fares_hire
  | work j c =>
    simp only [step, work]
    split
    · next hj =>
      refine .stays _ (by simp) ?_
      rintro c' x he hx
      cases he
      cases hj.symm.trans hx
    · next x hj =>
      refine .of_set hj .works (by simp) ?_
      rintro c' hi he
      cases he
      exact hi rfl
  | panic j =>
    simp only [step]
    split
    · exact .stays _ (by simp) fun c _ he => by cases he
    · next x hj => exact .of_set hj .breaks (by simp) fun c _ he => by cases he
  | cancel =>
    rw [step, List.getElem?_map]
    exact .told _
  | call now c =>
    simp only [step]
    split <;> exact .stays _ (by simp) fun c _ he => by cases he
  | equip place => exact .stays _ (by simp) fun c _ he => by cases he

/-- The policy and the names are the same on the whole shift. -/
theorem step_same (s : Staff) (event : ShiftEvent) :
    (s.step event).policy = s.policy ∧ (s.step event).name = s.name := by
  cases event with
  | hire => simp only [step, hire]; split <;> exact ⟨rfl, rfl⟩
  | work => simp only [step, work]; split <;> exact ⟨rfl, rfl⟩
  | panic => simp only [step]; split <;> exact ⟨rfl, rfl⟩
  | call => simp only [step]; split <;> exact ⟨rfl, rfl⟩
  | cancel | equip => exact ⟨rfl, rfl⟩

theorem cancelled_step (h : event ≠ .cancel) : (s.step event).cancelled = s.cancelled := by
  cases event with
  | hire => simp only [step, hire]; split <;> rfl
  | work => simp only [step, work]; split <;> rfl
  | panic => simp only [step]; split <;> rfl
  | call => simp only [step]; split <;> rfl
  | equip => rfl
  | cancel => exact absurd rfl h

/-! ## The gauge -/

theorem length_step (s : Staff) (event : ShiftEvent) :
    (s.step event).workers.length = s.workers.length ∨
    (s.step event).workers.length = s.workers.length + 1 ∧
      s.workers.length < s.policy.workers := by
  cases event with
  | hire =>
    simp only [step, hire]
    split
    · next hfew => exact .inr ⟨List.length_append, hfew⟩
    · exact .inl rfl
  | work => simp only [step, work]; split <;> [exact .inl rfl; exact .inl List.length_set]
  | panic => simp only [step]; split <;> [exact .inl rfl; exact .inl List.length_set]
  | cancel => exact .inl (List.length_map _)
  | call => simp only [step]; split <;> exact .inl rfl
  | equip => exact .inl rfl

/-- Before anything else happens each start brings the next worker, and counts it. -/
theorem hire_iterate (hs : s.workers = []) {n : Nat} (hn : n ≤ s.policy.workers) :
    hire^[n] s =
      { s with gauge := s.gauge + n, workers := (List.range n).map s.newcomer } := by
  induction n with
  | zero =>
    rw [List.range_zero, List.map_nil, ← hs]
    rfl
  | succ n ih =>
    have hfew : ((List.range n).map s.newcomer).length < s.policy.workers := by
      rw [List.length_map, List.length_range]
      exact hn
    rw [Function.iterate_succ_apply', ih (Nat.le_of_succ_le hn), hire, if_pos hfew,
      List.length_map, List.length_range, List.range_succ, List.map_append]
    rfl

/-- The workers that a pipeline starts at once are those of a staff that has started all. -/
theorem actors_spawn (p : Pipeline) (policy : DispatchPolicy) (name : String) :
    (p.spawn policy name).actors = p.actors ++
      (hire^[policy.workers] { policy, name, place := p.place }).workers.map .worker := by
  let s : Staff := { policy, name, place := p.place }
  have hall : hire^[policy.workers] s = _ := hire_iterate rfl (Nat.le_refl s.policy.workers)
  rw [hall, List.map_map]
  rfl

/-- The worker is the one with this number, and it has been told what all are told. -/
structure Serves (s : Staff) (i : Nat) (x : Worker) : Prop where
  id : x.id = s.idOf i
  policy : x.policy = s.policy
  cancelled : x.cancelled = s.cancelled

theorem Fares.serves {v : Option Worker} {x' : Worker} (h : s.Fares i event v (some x'))
    (hv : ∀ x, v = some x → s.Serves i x) : (s.step event).Serves i x' := by
  obtain ⟨hpolicy, hname⟩ := s.step_same event
  have hid : (s.step event).idOf i = s.idOf i := by rw [idOf, idOf, hname]
  generalize hv' : some x' = v' at h
  cases h with
  | hired => cases hv'; exact ⟨hid.symm, hpolicy.symm, (cancelled_step (by simp)).symm⟩
  | @works x c =>
    cases hv'
    obtain ⟨hx, hxpolicy⟩ := x.step_same c s.place
    obtain ⟨hxid, hxp, hxc⟩ := hv x rfl
    exact ⟨by rw [hx, hid, hxid], by rw [hxpolicy, hpolicy, hxp],
      by rw [Worker.cancelled_step, cancelled_step (by simp), hxc]⟩
  | @breaks x =>
    cases hv'
    obtain ⟨hxid, hxp, hxc⟩ := hv x rfl
    exact ⟨hxid.trans hid.symm, hxp.trans hpolicy.symm, hxc.trans (cancelled_step (by simp)).symm⟩
  | told =>
    cases v with
    | none => cases hv'
    | some x =>
      cases hv'
      obtain ⟨hxid, hxp, _⟩ := hv x rfl
      exact ⟨hxid.trans hid.symm, hxp.trans hpolicy.symm, rfl⟩
  | stays _ hcancel _ =>
    obtain ⟨hxid, hxp, hxc⟩ := hv x' hv'.symm
    exact ⟨hxid.trans hid.symm, hxp.trans hpolicy.symm, hxc.trans (cancelled_step hcancel).symm⟩

/-- What holds at any time of a shift. -/
structure Inv (s : Staff) : Prop where
  few : s.workers.length ≤ s.policy.workers
  serves : ∀ i x, s.workers[i]? = some x → s.Serves i x
  gauge : s.gauge = s.workers.countP Worker.isLive

/-- The count of the workers whose loops go on, when one does a step. -/
theorem countP_set {x x' : Worker} (hx : s.workers[i]? = some x)
    (hstopped : x.isLive = false → x'.isLive = false) :
    (s.workers.set i x').countP Worker.isLive =
      if x.isLive && !x'.isLive then s.workers.countP Worker.isLive - 1
      else s.workers.countP Worker.isLive := by
  obtain ⟨hi, rfl⟩ := List.getElem?_eq_some_iff.mp hx
  rw [List.countP_set hi]
  cases hlive : s.workers[i].isLive with
  | false => simp [hstopped hlive]
  | true =>
    have hpos : 0 < s.workers.countP Worker.isLive :=
      List.countP_pos_iff.mpr ⟨_, List.getElem_mem hi, hlive⟩
    cases x'.isLive <;> simp only [Bool.not_true, Bool.not_false, Bool.and_true, Bool.and_false,
      if_true, Bool.false_eq_true, if_false] <;> omega

theorem Inv.step (h : s.Inv) (event : ShiftEvent) : (s.step event).Inv where
  few := by
    rw [(s.step_same event).1]
    rcases s.length_step event with hlength | ⟨hlength, hfew⟩ <;> rw [hlength]
    · exact h.few
    · exact hfew
  serves i x' hx' := by
    have hfares := s.fares event i
    rw [hx'] at hfares
    exact hfares.serves (h.serves i)
  gauge := by
    cases event with
    | hire =>
      simp only [Staff.step, hire]
      split
      · rw [List.countP_append, ← h.gauge]
        rfl
      · exact h.gauge
    | work i c =>
      simp only [Staff.step, work]
      split
      · exact h.gauge
      · next x hx =>
        rw [countP_set hx fun hstopped => by rw [Worker.step_stopped hstopped]; exact hstopped,
          h.gauge]
    | panic i =>
      simp only [Staff.step]
      split
      · exact h.gauge
      · next x hx =>
        rw [countP_set hx fun hstopped => by rw [Worker.isLive_breakDown]; exact hstopped,
          Worker.isLive_breakDown]
        simp [h.gauge]
    | cancel =>
      simp only [Staff.step, List.countP_map, h.gauge]
      rfl
    | call => simp only [Staff.step]; split <;> exact h.gauge
    | equip => exact h.gauge

end Staff

namespace Shift

variable {k : Shift} {i n m l : Nat} {x : Worker}

theorem inv (k : Shift) (n : Nat) : (k.staff n).Inv := by
  induction n with
  | zero => exact ⟨Nat.zero_le _, fun i x hx => (by cases hx), rfl⟩
  | succ n ih => exact ih.step (k.events n)

theorem same (k : Shift) (n : Nat) : (k.staff n).policy = k.policy ∧ (k.staff n).name = k.name := by
  induction n with
  | zero => exact ⟨rfl, rfl⟩
  | succ n ih =>
    obtain ⟨hpolicy, hname⟩ := (k.staff n).step_same (k.events n)
    exact ⟨hpolicy.trans ih.1, hname.trans ih.2⟩

theorem fares (k : Shift) (i n : Nat) :
    (k.staff n).Fares i (k.events n) (k.worker? i n) (k.worker? i (n + 1)) :=
  (k.staff n).fares (k.events n) i

theorem length_le (h : n ≤ l) : (k.staff n).workers.length ≤ (k.staff l).workers.length := by
  induction l, h using Nat.le_induction with
  | base => exact Nat.le_refl _
  | succ l _ ih =>
    rcases (k.staff l).length_step (k.events l) with hlength | ⟨hlength, _⟩ <;>
      simp only [staff, hlength] <;> omega

/-- Nobody is started when all have been. -/
theorem length_full (h : (k.staff n).workers.length = k.policy.workers) (hl : n ≤ l) :
    (k.staff l).workers.length = k.policy.workers :=
  Nat.le_antisymm ((k.same l).1 ▸ (k.inv l).few) (h ▸ length_le hl)

/-- Who is started stays, even after its loop has ended. -/
theorem exists_worker (hx : k.worker? i n = some x) (h : n ≤ l) : ∃ y, k.worker? i l = some y := by
  obtain ⟨hi, _⟩ := List.getElem?_eq_some_iff.mp hx
  exact ⟨_, List.getElem?_eq_getElem (Nat.lt_of_lt_of_le hi (length_le h))⟩

/-- From the shutdown on all are told. -/
theorem told_of_le (hm : k.events m = .cancel) (h : m ≤ n) :
    (k.staff n).cancelled = true ∨ k.events n = .cancel := by
  induction n, h using Nat.le_induction with
  | base => exact .inr hm
  | succ n _ ih =>
    refine .inl ?_
    rcases ih with hcancelled | hevent
    · by_cases hevent : k.events n = .cancel
      · rw [staff, hevent]; rfl
      · rw [staff, Staff.cancelled_step hevent, hcancelled]
    · rw [staff, hevent]; rfl

end Shift

/-! ## The way to the end -/

/-- How far a worker is from its end once it is told of the shutdown. Signs of life do not count. -/
def WorkerPhase.left : WorkerPhase → Nat × Nat
  | .stopped => (0, 0)
  | .deciding | .resting _ => (1, 0)
  | .polling (.attempting _ _) => (5, 0)
  | .polling poll => (poll.remaining.1 + 2, poll.remaining.2)

theorem toLex_lt_of_fst {a b : Nat × Nat} (h : a.1 < b.1) : toLex a < toLex b :=
  Prod.Lex.toLex_lt_toLex.mpr (.inl h)

namespace Poll

theorem left_fst (poll : Poll) : (WorkerPhase.polling poll).left.1 = poll.remaining.1 + 2 := by
  cases poll <;> rfl

theorem left_lt {poll poll' : Poll} (h : poll'.remaining.1 < poll.remaining.1) :
    toLex (WorkerPhase.polling poll').left < toLex (WorkerPhase.polling poll).left := by
  refine toLex_lt_of_fst ?_
  rw [left_fst, left_fst]
  exact Nat.add_lt_add_right h 2

theorem remaining_abandon (e : StoreError) : (abandon e).remaining = (0, 0) := by
  cases e <;> rfl

/-- A step brings a poll nearer to its end, unless its attempt goes on. -/
theorem left_step (p : DispatchPolicy) (worker : WorkerId) (c : Clocks) (w : Workplace)
    {poll : Poll} (hover : poll.isOver = false) :
    (∃ a beat, poll = attempting a beat) ∧
        (∃ a beat, (poll.step p worker c w).1 = attempting a beat) ∨
      toLex (WorkerPhase.polling (poll.step p worker c w).1).left <
        toLex (WorkerPhase.polling poll).left := by
  cases poll with
  | gating =>
    refine .inr (left_lt ?_)
    simp only [step, gate]
    split
    · cases w.gateOpen <;> simp [remaining]
    · simp [remaining]
  | querying =>
    refine .inr (left_lt ?_)
    simp only [step]
    split <;> simp [remaining]
  | claiming candidates =>
    refine .inr ?_
    cases candidates with
    | nil => exact left_lt (by simp [step, claimFirst, remaining])
    | cons t rest =>
      have hrest : toLex (WorkerPhase.polling (claiming rest)).left <
          toLex (WorkerPhase.polling (claiming (t :: rest))).left :=
        Prod.Lex.toLex_lt_toLex.mpr (.inr ⟨rfl, Nat.lt_succ_self _⟩)
      simp only [step, claimFirst]
      split
      · exact left_lt (by simp [remaining])
      · exact hrest
      · exact hrest
  | starting t =>
    refine .inr (left_lt ?_)
    simp only [step]
    split
    · simp [remaining]
    · rw [remaining_abandon]
      exact Nat.zero_lt_succ _
  | launching r =>
    refine .inr (left_lt ?_)
    simp only [step]
    split
    · simp [remaining]
    · split <;> simp [remaining]
  | attempting a beat =>
    simp only [step, attend, giveSign]
    split
    · exact .inr (left_lt (by simp [remaining]))
    · split <;> exact .inl ⟨⟨_, _, rfl⟩, _, _, rfl⟩
  | settling r outcome =>
    refine .inr (left_lt ?_)
    simp only [step, settle]
    split
    · simp [remaining]
    · simp [remaining]
    · rw [remaining_abandon]
      exact Nat.zero_lt_succ _
  | telling u => exact .inr (left_lt (by simp [step, remaining]))
  | ended | crashed => cases hover

end Poll

namespace Worker

variable {x : Worker} {c : Clocks} {w : Workplace}

/-- How far the worker is from its end once it is told of the shutdown. -/
def rank (x : Worker) : Nat ×ₗ Nat := toLex x.phase.left

theorem attempting_iff : x.Attempting ↔ x.rank = toLex (5, 0) := by
  constructor
  · rintro ⟨a, beat, hp⟩
    rw [rank, hp]
    rfl
  · intro h
    have h : x.phase.left = (5, 0) := toLex.injective h
    cases hp : x.phase with
    | polling poll =>
      rw [hp] at h
      cases poll with
      | attempting a beat => exact ⟨a, beat, hp⟩
      | _ => simp [WorkerPhase.left, Poll.remaining] at h
    | _ => rw [hp] at h; simp [WorkerPhase.left] at h

theorem isLive_eq_false_iff_rank : x.isLive = false ↔ x.rank = toLex (0, 0) := by
  rw [isLive_eq_false]
  constructor
  · intro hp
    rw [rank, hp]
    rfl
  · intro h
    have h : x.phase.left = (0, 0) := toLex.injective h
    cases hp : x.phase with
    | polling poll =>
      have hfst := poll.left_fst
      rw [hp] at h
      rw [h] at hfst
      cases hfst
    | stopped => rfl
    | _ => rw [hp] at h; simp [WorkerPhase.left] at h

/-- **A worker that is told of the shutdown comes nearer to its end with each step**, unless its
attempt goes on. -/
theorem rank_step (hc : x.cancelled = true) (hlive : x.isLive = true) :
    x.Attempting ∧ (x.step c w).1.Attempting ∨ (x.step c w).1.rank < x.rank := by
  cases hp : x.phase with
  | deciding =>
    refine .inr ?_
    simp only [rank, step, hp, hc, if_true]
    exact toLex_lt_of_fst Nat.zero_lt_one
  | resting wakes =>
    refine .inr ?_
    simp only [rank, step, hp, hc, if_true]
    exact toLex_lt_of_fst Nat.zero_lt_one
  | stopped =>
    rw [isLive_eq_false.mpr hp] at hlive
    cases hlive
  | polling poll =>
    cases hover : poll.isOver with
    | true =>
      refine .inr ?_
      cases poll with
      | ended ran =>
        cases ran <;> simp only [rank, step, hp] <;> exact toLex_lt_of_fst (Nat.lt_succ_self 1)
      | crashed => simp only [rank, step, hp]; exact toLex_lt_of_fst (Nat.lt_succ_self 1)
      | _ => cases hover
    | false =>
      rw [step_poll hp hover]
      rcases Poll.left_step x.policy x.id c w hover with
        ⟨⟨a, beat, ha⟩, a', beat', ha'⟩ | hlt
      · exact .inl ⟨⟨a, beat, by rw [hp, ha]⟩, a', beat', by rw [ha']⟩
      · refine .inr ?_
        simp only [rank, hp]
        exact hlt

theorem rank_step_le (hc : x.cancelled = true) : (x.step c w).1.rank ≤ x.rank := by
  cases hlive : x.isLive with
  | false => rw [step_stopped hlive]
  | true =>
    rcases rank_step (c := c) (w := w) hc hlive with ⟨hbefore, hafter⟩ | hlt
    · rw [attempting_iff.mp hbefore, attempting_iff.mp hafter]
    · exact le_of_lt hlt

theorem rank_breakDown_le : x.breakDown.rank ≤ x.rank := by
  simp only [rank, breakDown]
  cases x.phase with
  | polling poll =>
    cases hover : poll.isOver with
    | true => simp [hover]
    | false =>
      simp only [hover, Bool.false_eq_true, if_false]
      refine le_of_lt (Poll.left_lt ?_)
      cases poll with
      | ended | crashed => cases hover
      | _ => simp [Poll.remaining]
  | _ => exact le_refl _

end Worker

/-- A worker that is not started yet will have nothing to do but to stop. -/
def Worker.rank? : Option Worker → Nat ×ₗ Nat
  | none => toLex (1, 0)
  | some x => x.rank

theorem Staff.Fares.rank_le {s : Staff} {i : Nat} {event : ShiftEvent} {v v' : Option Worker}
    (h : s.Fares i event v v') (hv : ∀ x, v = some x → s.Serves i x)
    (htold : s.cancelled = true ∨ event = .cancel) : Worker.rank? v' ≤ Worker.rank? v := by
  cases h with
  | hired => exact le_refl _
  | @works x c =>
    have hc : s.cancelled = true := htold.resolve_right (by simp)
    exact Worker.rank_step_le ((hv x rfl).cancelled.trans hc)
  | breaks => exact Worker.rank_breakDown_le
  | told => cases v <;> exact le_refl _
  | stays => exact le_refl _

namespace Shift

variable {k : Shift} {i n m l j j' : Nat} {x : Worker}

/-- How far a worker is from its end once it is told of the shutdown. -/
def rank (k : Shift) (i n : Nat) : Nat ×ₗ Nat := Worker.rank? (k.worker? i n)

theorem rank_of_worker? (hx : k.worker? i n = some x) : k.rank i n = x.rank := by
  rw [rank, hx]
  rfl

/-- **Nothing takes a worker away from its end once it is told of the shutdown.** -/
theorem rank_le (hm : k.events m = .cancel) (hn : m ≤ n) (h : n ≤ l) : k.rank i l ≤ k.rank i n := by
  induction l, h using Nat.le_induction with
  | base => exact le_refl _
  | succ l hl ih =>
    exact le_trans ((k.fares i l).rank_le ((k.inv l).serves i)
      (told_of_le hm (Nat.le_trans hn hl))) ih

/-- Who has stopped does not come back. -/
theorem rank_stopped (hm : k.events m = .cancel) (hn : m ≤ n) (h : n ≤ l)
    (hstopped : k.rank i n = toLex (0, 0)) : k.rank i l = toLex (0, 0) :=
  le_antisymm (hstopped ▸ rank_le hm hn h) bot_le

/-! ## The last attempt -/

/-- Where a worker stands when it begins an attempt, and right after. -/
theorem Begins.rank (h : k.Begins i n) :
    k.rank i n = toLex (7, 0) ∧ k.rank i (n + 1) = toLex (6, 0) := by
  obtain ⟨c, x, t, x', r, _, hx, hp, hx', hp'⟩ := h
  rw [rank_of_worker? hx, rank_of_worker? hx', Worker.rank, Worker.rank, hp, hp']
  exact ⟨rfl, rfl⟩

/-- A worker that is farther from its end than those between two polls is at a poll. -/
theorem polls_of_rank (h : toLex (2, 0) ≤ k.rank i n) : k.Polls i n := by
  have hnot : ∀ a ≤ 1, ¬(toLex (2, 0) : Nat ×ₗ Nat) ≤ toLex (a, 0) := by
    intro a ha hle
    rcases Prod.Lex.toLex_le_toLex.mp hle with hlt | ⟨heq, _⟩
    · exact absurd hlt (by dsimp only; omega)
    · exact absurd heq (by dsimp only; omega)
  cases hx : k.worker? i n with
  | none =>
    rw [Shift.rank, hx] at h
    exact absurd h (hnot 1 (Nat.le_refl 1))
  | some x =>
    rw [rank_of_worker? hx, Worker.rank] at h
    cases hp : x.phase with
    | polling poll => exact ⟨x, poll, hx, hp⟩
    | deciding | resting => rw [hp] at h; exact absurd h (hnot 1 (Nat.le_refl 1))
    | stopped => rw [hp] at h; exact absurd h (hnot 0 (Nat.zero_le 1))

/-- A worker that begins an attempt after the shutdown has been at one poll since before. -/
theorem Begins.polls (h : k.Begins i j) (hm : k.events m = .cancel) (hl : m ≤ l) (hj : l ≤ j) :
    k.Polls i l := by
  refine polls_of_rank (le_trans ?_ (rank_le hm hl hj))
  rw [h.rank.1]
  exact le_of_lt (toLex_lt_of_fst (by decide))

/-- **A worker begins at most one attempt after the shutdown.** -/
theorem begins_once (hm : k.events m = .cancel) (hj : m ≤ j) (hj' : m ≤ j') (h : k.Begins i j)
    (h' : k.Begins i j') : j = j' := by
  have hnot : ∀ {j j'}, m ≤ j → k.Begins i j → k.Begins i j' → ¬j < j' := by
    intro j j' hj h h' hlt
    have hle := rank_le (i := i) hm (Nat.le_succ_of_le hj) (Nat.succ_le_of_lt hlt)
    rw [h'.rank.1, Nat.succ_eq_add_one, h.rank.2] at hle
    rcases Prod.Lex.toLex_le_toLex.mp hle with hlt | ⟨heq, _⟩
    · exact absurd hlt (by decide)
    · cases heq
  exact Nat.le_antisymm (Nat.le_of_not_lt (hnot hj' h' h)) (Nat.le_of_not_lt (hnot hj h h'))

/-! ## The end -/

theorem attempts_iff : k.Attempts i n ↔ k.rank i n = toLex (5, 0) := by
  constructor
  · rintro ⟨x, hx, hattempting⟩
    rw [rank_of_worker? hx, Worker.attempting_iff.mp hattempting]
  · intro h
    cases hx : k.worker? i n with
    | none =>
      rw [Shift.rank, hx] at h
      cases toLex.injective h
    | some x =>
      rw [rank_of_worker? hx] at h
      exact ⟨x, hx, Worker.attempting_iff.mpr h⟩

theorem worker?_work {c : Clocks} (hevent : k.events n = .work i c) (hx : k.worker? i n = some x) :
    k.worker? i (n + 1) = some (x.step c (k.staff n).place).1 := by
  have hx : (k.staff n).workers[i]? = some x := hx
  simp only [worker?, staff, hevent, Staff.step, Staff.work, hx]
  exact List.getElem?_set_self (List.getElem?_eq_some_iff.mp hx).1

/-- Who is told of the shutdown comes nearer to the end in time, or has stopped. -/
theorem Fair.nearer (h : k.Fair) (hm : k.events m = .cancel) (hn : m ≤ n)
    (hx : k.worker? i n = some x) :
    ∃ l ≥ n, k.rank i l = toLex (0, 0) ∨ k.rank i l < k.rank i n := by
  by_cases hattempts : k.Attempts i n
  · obtain ⟨l, hl, hnot⟩ := h.attempts i n hattempts
    refine ⟨l, hl, .inr (lt_of_le_of_ne (rank_le hm hn hl) fun he => hnot ?_)⟩
    rw [attempts_iff] at hattempts ⊢
    exact he.trans hattempts
  · cases hlive : x.isLive with
    | false =>
      refine ⟨n, Nat.le_refl n, .inl ?_⟩
      rw [rank_of_worker? hx, Worker.isLive_eq_false_iff_rank.mp hlive]
    | true =>
      obtain ⟨l, hl, c, hevent⟩ := h.turns i n x hx hlive
      obtain ⟨y, hy⟩ := exists_worker hx hl
      have hle := rank_le (i := i) hm hn hl
      cases hylive : y.isLive with
      | false =>
        refine ⟨l, hl, .inl ?_⟩
        rw [rank_of_worker? hy, Worker.isLive_eq_false_iff_rank.mp hylive]
      | true =>
        have htold : (k.staff l).cancelled = true :=
          (told_of_le hm (Nat.le_trans hn hl)).resolve_right (by simp [hevent])
        rcases Worker.rank_step (c := c) (w := (k.staff l).place)
            ((((k.inv l).serves i y hy).cancelled).trans htold) hylive with
          ⟨hattempting, _⟩ | hlt
        · -- The worker has come to its attempt since.
          refine ⟨l, hl, .inr (lt_of_le_of_ne hle fun he => hattempts ?_)⟩
          rw [attempts_iff, ← he, ← attempts_iff]
          exact ⟨y, hy, hattempting⟩
        · refine ⟨l + 1, Nat.le_succ_of_le hl, .inr (lt_of_lt_of_le ?_ hle)⟩
          rw [rank_of_worker? hy, rank_of_worker? (worker?_work hevent hy)]
          exact hlt

/-- **Who is told of the shutdown stops in time**, and for good. -/
theorem Fair.stops (h : k.Fair) (hm : k.events m = .cancel) (hn : m ≤ n)
    (hx : k.worker? i n = some x) : ∃ l ≥ n, ∀ j ≥ l, k.rank i j = toLex (0, 0) := by
  induction hr : k.rank i n using WellFoundedLT.induction generalizing n x with
  | ind r ih =>
    subst hr
    obtain ⟨l, hl, hstopped | hlt⟩ := h.nearer hm hn hx
    · exact ⟨l, hl, fun j hj => rank_stopped hm (Nat.le_trans hn hl) hj hstopped⟩
    · obtain ⟨y, hy⟩ := exists_worker hx hl
      obtain ⟨j, hj, hstops⟩ := ih _ hlt (Nat.le_trans hn hl) hy rfl
      exact ⟨j, Nat.le_trans hl hj, hstops⟩

theorem over_iff : k.Over n ↔ (k.staff n).workers.length = k.policy.workers ∧
    ∀ i < k.policy.workers, k.rank i n = toLex (0, 0) := by
  refine and_congr_right fun hlength => ⟨fun h i hi => ?_, fun h x hx => ?_⟩
  · rw [← hlength] at hi
    have hx : k.worker? i n = some _ := List.getElem?_eq_getElem hi
    rw [rank_of_worker? hx]
    exact Worker.isLive_eq_false_iff_rank.mp (h _ (List.getElem_mem hi))
  · obtain ⟨i, hi, hx⟩ := List.mem_iff_getElem.mp hx
    have hx : k.worker? i n = some x := List.getElem?_eq_some_iff.mpr ⟨hi, hx⟩
    rw [Worker.isLive_eq_false_iff_rank, ← rank_of_worker? hx]
    exact h i (hlength ▸ hi)

/-- **All workers stop in time after the shutdown.** -/
theorem Fair.over (h : k.Fair) (hm : k.events m = .cancel) : ∃ n, k.Over n := by
  obtain ⟨n₀, hn₀⟩ := h.hires
  have hstops : ∀ i ∈ Finset.range k.policy.workers, ∀ᶠ n in Filter.atTop,
      k.rank i n = toLex (0, 0) := by
    intro i hi
    have hi : i < (k.staff (max m n₀)).workers.length := by
      rw [length_full hn₀ (Nat.le_max_right m n₀)]
      exact Finset.mem_range.mp hi
    obtain ⟨l, _, hl⟩ := h.stops hm (Nat.le_max_left m n₀) (List.getElem?_eq_getElem hi)
    exact Filter.eventually_atTop.mpr ⟨l, hl⟩
  obtain ⟨l, hl⟩ := Filter.eventually_atTop.mp ((Filter.eventually_all_finset _).mpr hstops)
  refine ⟨max l n₀, over_iff.mpr ⟨length_full hn₀ (Nat.le_max_right l n₀), fun i hi => ?_⟩⟩
  exact hl _ (Nat.le_max_left l n₀) i (Finset.mem_range.mpr hi)

/-- When all workers have stopped, none comes back. -/
theorem Over.later (h : k.Over n) (hm : k.events m = .cancel) (hn : m ≤ n) (hl : n ≤ l) :
    k.Over l := by
  obtain ⟨hlength, hstopped⟩ := over_iff.mp h
  exact over_iff.mpr ⟨length_full hlength hl, fun i hi => rank_stopped hm hn hl (hstopped i hi)⟩

theorem Over.gauge (h : k.Over n) : (k.staff n).gauge = 0 := by
  rw [(k.inv n).gauge, List.countP_eq_zero]
  exact fun x hx => by rw [h.2 x hx]; simp

end Shift

end TaskPipeline
