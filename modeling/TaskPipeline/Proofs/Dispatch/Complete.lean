import TaskPipeline.Proofs.Dispatch.Course

/-!
# A poll is one complete attempt

The course of a poll is given by what it finds at each of its turns; between two turns others may
do what they like, but leave the task in hand alone. A poll that has run a task changed that task
alone, launched its executor once, and left it settled and told about (`Course.Complete`); a poll
that found none did nothing (`Course.Untouched`). And every poll ends (`poll_is_one_attempt`).
-/

namespace TaskPipeline

/-- A task is told about once when its work does not go on. -/
theorem Notice.length_ofTask? {t : Task} (h : t.status = .pending ∨ t.status = .completed ∨
    t.status = .failed ∨ t.status = .needsDecision) :
    (Notice.ofTask? t).toList.length = if t.status = .pending then 0 else 1 := by
  rcases h with h | h | h | h <;> rw [Notice.ofTask?, h] <;> rfl

/-- A poll of a worker, by the turns that it gets. -/
structure Course where
  policy : DispatchPolicy
  worker : WorkerId
  turns : Nat → Turn

namespace Course

/-- Where the poll stands at a turn. -/
def poll (k : Course) : Nat → Poll
  | 0 => .gating
  | n + 1 => ((k.poll n).step k.policy k.worker (k.turns n).clocks (k.turns n).place).1

/-- The workplace as the poll leaves it at a turn. -/
def left (k : Course) (n : Nat) : Workplace :=
  ((k.poll n).step k.policy k.worker (k.turns n).clocks (k.turns n).place).2

/-- The store as the poll finds it at a turn. -/
def store (k : Course) (n : Nat) : Store := (k.turns n).place.store

/-- The wall clock at a turn. -/
def now (k : Course) (n : Nat) : Instant := (k.turns n).clocks.now

/-- The launches of a type of executor by the poll, before a turn. -/
def launches (k : Course) : Nat → TaskType → Nat
  | 0, _ => 0
  | n + 1, type => k.launches n type +
    ((k.left n).gateway.launchesOf type - (k.turns n).place.gateway.launchesOf type)

/-- What the poll has told before a turn. -/
def told (k : Course) : Nat → List Notice
  | 0 => []
  | n + 1 => k.told n ++ (k.left n).notices.drop (k.turns n).place.notices.length

/-- The poll gets its turns when it has something to do. -/
def IsDue (k : Course) : Prop := ∀ n, (k.poll n).Due (k.turns n).clocks

/-- Nobody else changes the task in hand or the type of a task, and no call on it fails, since
neither its attempts nor the delays go beyond what can be counted. -/
structure Undisturbed (k : Course) : Prop where
  keyed : ∀ n, (k.store n).Keyed
  types : ∀ n, (k.left n).store.KeepsTypes (k.store (n + 1))
  hand : ∀ n t, (k.poll (n + 1)).hand? = some t →
    (k.store (n + 1)).task? t.id = (k.left n).store.task? t.id
  counts : ∀ n t, k.poll n = .starting t → t.attemptCount.toNat + 1 < UInt32.size
  delays : ∀ n r outcome, k.poll n = .settling r outcome → (k.turns n).place.policy.Fits (k.now n)

/-- Before a turn the poll has changed, launched and told nothing. -/
structure Untouched (k : Course) (n : Nat) : Prop where
  store : ∀ m < n, (k.left m).store = k.store m
  launches : ∀ type, k.launches n type = 0
  told : k.told n = []

/-- Before a turn the poll has claimed a task that was open to it, and has changed no other. -/
structure Claims (k : Course) (n : Nat) (t : Task) : Prop where
  queried : ∃ m < n, k.poll m = .querying ∧ ∃ v, (k.store m).task? t.id = some v ∧
    v.isOpenTo k.policy.taskTypes (k.now m) = true
  claimed : ∃ m < n, (k.store m).task? t.id = some t ∧
    t.isOpenTo k.policy.taskTypes (k.now m) = true
  alone : ∀ m < n, (k.left m).store.without t.id = (k.store m).without t.id

/-- Before a turn the poll has launched the executor of the task once, if there was one, and no
other. -/
def Serves (k : Course) (n : Nat) (t : Task) : Prop :=
  ∃ m < n, (∃ r, k.poll m = .launching r ∧ r.id = t.id) ∧ ∀ type, k.launches n type =
    if type = t.taskType ∧
      ((k.turns m).place.gateway.registry.executor? t.taskType).isSome = true then 1 else 0

/-- One attempt of a task, from what was claimed to what was recorded and told. -/
structure Complete (k : Course) (n : Nat) (t u : Task) : Prop where
  claims : k.Claims n t
  serves : k.Serves n t
  recorded : ∃ m < n, k.poll m = .telling u ∧ (k.store m).task? t.id = some u
  attemptCount : u.attemptCount.toNat = t.attemptCount.toNat + 1
  status : u.status = .pending ∨ u.status = .completed ∨ u.status = .failed ∨
    u.status = .needsDecision
  claimedBy : u.claimedBy = none
  told : k.told n = (Notice.ofTask? u).toList
  toldOnce : (k.told n).length = if u.status = .pending then 0 else 1


/-! ## What a turn adds -/

variable {k : Course} {n : Nat} {t r u : Task}

/-- The step at a turn does nothing that anybody else can notice. -/
structure Idles (k : Course) (n : Nat) : Prop where
  store : (k.left n).store = k.store n
  launches : ∀ type, (k.left n).gateway.launchesOf type =
    (k.turns n).place.gateway.launchesOf type
  told : (k.left n).notices = (k.turns n).place.notices

theorem idles_of_left (h : k.left n = (k.turns n).place) : k.Idles n :=
  ⟨by rw [h]; rfl, fun _ => by rw [h], by rw [h]⟩

theorem launches_succ {type : TaskType} (h : (k.left n).gateway.launchesOf type =
    (k.turns n).place.gateway.launchesOf type) : k.launches (n + 1) type = k.launches n type := by
  rw [launches, h, Nat.sub_self, Nat.add_zero]

theorem told_succ (h : (k.left n).notices = (k.turns n).place.notices) :
    k.told (n + 1) = k.told n := by
  rw [told, h, List.drop_length, List.append_nil]

theorem forall_lt_succ {p : Nat → Prop} (h : ∀ m < n, p m) (hn : p n) : ∀ m < n + 1, p m :=
  fun m hm => (Nat.lt_succ_iff_lt_or_eq.mp hm).elim (h m) fun he => he ▸ hn

theorem Untouched.succ (h : k.Untouched n) (hn : k.Idles n) : k.Untouched (n + 1) where
  store := forall_lt_succ h.store hn.store
  launches type := (launches_succ (hn.launches type)).trans (h.launches type)
  told := (told_succ hn.told).trans h.told

theorem Claims.succ (h : k.Claims n t)
    (hn : (k.left n).store.without t.id = (k.store n).without t.id) : k.Claims (n + 1) t where
  queried := h.queried.imp fun _ hm => hm.imp_left Nat.lt_succ_of_lt
  claimed := h.claimed.imp fun _ hm => hm.imp_left Nat.lt_succ_of_lt
  alone := forall_lt_succ h.alone hn

theorem Serves.succ (h : k.Serves n t) (hn : ∀ type, (k.left n).gateway.launchesOf type =
    (k.turns n).place.gateway.launchesOf type) : k.Serves (n + 1) t := by
  obtain ⟨m, hm, hlaunching, hlaunches⟩ := h
  exact ⟨m, Nat.lt_succ_of_lt hm, hlaunching, fun type =>
    (launches_succ (hn type)).trans (hlaunches type)⟩

theorem Complete.succ (h : k.Complete n t u) (hn : k.Idles n) : k.Complete (n + 1) t u :=
  { h with
    claims := h.claims.succ (by rw [hn.store])
    serves := h.serves.succ hn.launches
    recorded := h.recorded.imp fun _ hm => hm.imp_left Nat.lt_succ_of_lt
    told := (told_succ hn.told).trans h.told
    toldOnce := by rw [told_succ hn.told]; exact h.toldOnce }

/-! ## Where a poll stands -/

/-- A candidate was open to the poll when it asked. -/
def Sought (k : Course) (n : Nat) (t : Task) : Prop :=
  ∃ m < n, k.poll m = .querying ∧ (k.store m).task? t.id = some t ∧
    t.isOpenTo k.policy.taskTypes (k.now m) = true

theorem Sought.succ (h : k.Sought n t) : k.Sought (n + 1) t :=
  h.imp fun _ hm => hm.imp_left Nat.lt_succ_of_lt

/-- The task as it is in the attempt that the poll makes after its claim. -/
structure Attempted (t r : Task) : Prop where
  id_eq : r.id = t.id
  taskType : r.taskType = t.taskType
  attemptCount : r.attemptCount.toNat = t.attemptCount.toNat + 1

/-- The poll has launched and told nothing yet. -/
structure Silent (k : Course) (n : Nat) : Prop where
  launches : ∀ type, k.launches n type = 0
  told : k.told n = []

theorem Silent.succ (h : k.Silent n) (hn : ∀ type, (k.left n).gateway.launchesOf type =
    (k.turns n).place.gateway.launchesOf type)
    (htold : (k.left n).notices = (k.turns n).place.notices) : k.Silent (n + 1) where
  launches type := (launches_succ (hn type)).trans (h.launches type)
  told := (told_succ htold).trans h.told

/-- The poll makes its attempt and has told nothing yet. -/
structure Pursues (k : Course) (n : Nat) (t r : Task) : Prop where
  claims : k.Claims n t
  serves : k.Serves n t
  attempted : Attempted t r
  told : k.told n = []

theorem Pursues.succ (h : k.Pursues n t r)
    (hstore : (k.left n).store.without t.id = (k.store n).without t.id)
    (hn : ∀ type, (k.left n).gateway.launchesOf type =
      (k.turns n).place.gateway.launchesOf type)
    (htold : (k.left n).notices = (k.turns n).place.notices) : k.Pursues (n + 1) t r :=
  { h with
    claims := h.claims.succ hstore
    serves := h.serves.succ hn
    told := (told_succ htold).trans h.told }

/-- What a poll has done when it stands there at a turn. -/
def Stands (k : Course) (n : Nat) : Poll → Prop
  | .gating => n = 0 ∧ k.Untouched n
  | .querying | .ended false => k.Untouched n
  | .claiming candidates => k.Untouched n ∧ ∀ t ∈ candidates, k.Sought n t
  | .starting v => ∃ t, k.Claims n t ∧ k.Silent n ∧ v.id = t.id ∧ v.taskType = t.taskType ∧
      v.attemptCount = t.attemptCount
  | .launching r => ∃ t, k.Claims n t ∧ k.Silent n ∧ Attempted t r
  | .attempting a _ => ∃ t, k.Pursues n t a.task
  | .settling r _ => ∃ t, k.Pursues n t r
  | .telling u => ∃ t, k.Pursues n t u ∧ u.claimedBy = none ∧ (u.status = .pending ∨
      u.status = .completed ∨ u.status = .failed ∨ u.status = .needsDecision)
  | .ended true => ∃ t u, k.Complete n t u
  | .crashed => (k.turns 0).place.gatePanics ≠ 0 ∨ k.policy.heartbeatInterval = 0

/-- At a turn the poll does one of the things that a step can come to. -/
def Goes (k : Course) (n : Nat) : Prop :=
  Poll.Goes k.policy k.worker (k.turns n).clocks (k.turns n).place (k.poll n) (k.poll (n + 1))
    (k.left n)

theorem Undisturbed.goes (h : k.Undisturbed) (hb : (k.poll n).Backed k.worker (k.store n)) :
    k.Goes n := Poll.goes_step (h.keyed n) hb (h.counts n) (h.delays n)

/-- What the poll thinks of its task is what is stored, at each of its turns. -/
theorem Undisturbed.backed (h : k.Undisturbed) (n : Nat) :
    (k.poll n).Backed k.worker (k.store n) := by
  induction n with
  | zero => trivial
  | succ n ih => exact ((h.goes ih).backed (h.keyed n) ih).of_same (h.types n) (h.hand n)

/-! ## Steps -/

section Steps

variable {poll poll' : Poll} {c : Clocks} {w w' : Workplace}

/-- A poll wins one of its candidates. -/
theorem Untouched.claims {v : Task} {s : Store} (hu : k.Untouched n) (hs : k.Sought n t)
    (htype : v.taskType = t.taskType) (hv : (k.store n).task? t.id = some v)
    (hopen : v.isClaimable (k.now n) = true) (hleft : (k.left n).store = s)
    (hreplaces : (k.store n).Replaces (v.heldBy k.worker (k.now n)) s) :
    k.Claims (n + 1) v := by
  have hid : v.id = t.id := Store.id_of_task? hv
  obtain ⟨m, hm, hquery, hfound, hasked⟩ := hs
  refine ⟨⟨m, Nat.lt_succ_of_lt hm, hquery, t, by rw [hid]; exact hfound, hasked⟩,
    ⟨n, Nat.lt_succ_self n, by rw [hid]; exact hv, ?_⟩, ?_⟩
  · simp only [Task.isOpenTo, Task.isOf, hopen, htype, Bool.true_and] at hasked ⊢
    exact (Bool.and_eq_true_iff.mp hasked).2
  · refine forall_lt_succ (fun m hm => by rw [hu.store m hm]) ?_
    rw [hleft]
    exact hreplaces.without

/-- A poll starts its task. -/
theorem Claims.starts {v : Task} {s : Store} (h : k.Claims n t) (hs : k.Silent n)
    (hid : v.id = t.id) (htype : v.taskType = t.taskType) (hcount : v.attemptCount = t.attemptCount)
    (hmoves : v.Moves (k.now n) (.start k.worker) r) (hreplaces : (k.store n).Replaces r s)
    (hleft : k.left n = { (k.turns n).place with store := s }) :
    k.Claims (n + 1) t ∧ k.Silent (n + 1) ∧ Attempted t r := by
  cases hmoves with
  | start _ _ _ hfits =>
    refine ⟨h.succ ?_, hs.succ (fun _ => by rw [hleft]) (by rw [hleft]), hid, htype, ?_⟩
    · rw [hleft, ← hid]
      exact hreplaces.without
    · rw [← hcount]
      exact Task.toNat_succ hfits

/-- A poll launches the executor of its task, if there is one. -/
theorem Claims.launches (h : k.Claims n t) (hs : k.Silent n) (ha : Attempted t r)
    (hpoll : k.poll n = .launching r) (hstore : (k.left n).store = k.store n)
    (hlaunches : ∀ type, (k.left n).gateway.launchesOf type =
      (k.turns n).place.gateway.launchesOf type + if type = r.taskType ∧
        ((k.turns n).place.gateway.registry.executor? r.taskType).isSome = true then 1 else 0)
    (htold : (k.left n).notices = (k.turns n).place.notices) : k.Pursues (n + 1) t r where
  claims := h.succ (by rw [hstore])
  serves := by
    refine ⟨n, Nat.lt_succ_self n, ⟨r, hpoll, ha.id_eq⟩, fun type => ?_⟩
    rw [Course.launches, hs.launches, hlaunches, Nat.zero_add, Nat.add_sub_cancel_left, ha.taskType]
  attempted := ha
  told := (told_succ htold).trans hs.told

/-- A poll changes its own task while it makes its attempt. -/
theorem Pursues.replaces {s : Store} (h : k.Pursues n t r) (hid : u.id = r.id)
    (hreplaces : (k.store n).Replaces u s)
    (hleft : k.left n = { (k.turns n).place with store := s }) : k.Pursues (n + 1) t r := by
  refine h.succ ?_ (fun _ => by rw [hleft]) (by rw [hleft])
  rw [hleft, ← h.attempted.id_eq, ← hid]
  exact hreplaces.without

/-- A poll tells what has become of its task. -/
theorem Pursues.complete (h : k.Pursues n t u) (hpoll : k.poll n = .telling u)
    (hbacked : (k.store n).task? u.id = some u) (hfree : u.claimedBy = none)
    (hstatus : u.status = .pending ∨ u.status = .completed ∨ u.status = .failed ∨
      u.status = .needsDecision) (hleft : k.left n = (k.turns n).place.tell u) :
    k.Complete (n + 1) t u := by
  have htold : k.told (n + 1) = (Notice.ofTask? u).toList := by
    simp only [Course.told, h.told, hleft, Workplace.tell, List.drop_left, List.nil_append]
  exact {
    claims := h.claims.succ (by rw [hleft]; rfl)
    serves := h.serves.succ fun _ => by rw [hleft]; rfl
    recorded := ⟨n, Nat.lt_succ_self n, hpoll, by rw [← h.attempted.id_eq]; exact hbacked⟩
    attemptCount := h.attempted.attemptCount
    status := hstatus
    claimedBy := hfree
    told := htold
    toldOnce := by rw [htold]; exact Notice.length_ofTask? hstatus }

/-- **A step keeps what is known of a poll.** -/
theorem Undisturbed.stands_succ (h : k.Undisturbed) (hs : k.Stands n (k.poll n)) :
    k.Stands (n + 1) (k.poll (n + 1)) := by
  have hbacked := h.backed n
  have hgoes := h.goes hbacked
  unfold Goes at hgoes
  generalize hpoll : k.poll n = poll at hgoes hs hbacked
  generalize hpoll' : k.poll (n + 1) = poll' at hgoes ⊢
  generalize hleft : k.left n = w' at hgoes
  cases hgoes with
  | breaks hpanics =>
    obtain ⟨rfl, _⟩ := hs
    exact .inl (by rw [hpanics]; exact Nat.succ_ne_zero _)
  | refused | admitted => exact hs.2.succ (idles_of_left hleft)
  | leaves => exact hs.1.succ (idles_of_left hleft)
  | errs => exact hs.succ (idles_of_left hleft)
  | finds hts =>
    exact ⟨hs.succ (idles_of_left hleft), fun t ht =>
      ⟨n, Nat.lt_succ_self n, hpoll, Store.mem_claimable (h.keyed n) hts ht⟩⟩
  | loses =>
    exact ⟨hs.1.succ (idles_of_left hleft), fun t ht => (hs.2 t (List.mem_cons_of_mem _ ht)).succ⟩
  | @wins t v _ _ hv hopen hreplaces =>
    obtain ⟨v', hv', htype⟩ := hbacked t List.mem_cons_self
    cases hv.symm.trans hv'
    have hclaims := hs.1.claims (hs.2 t List.mem_cons_self) htype hv hopen (by rw [hleft])
      hreplaces
    have hsilent : k.Silent n := ⟨hs.1.launches, hs.1.told⟩
    exact ⟨_, hclaims, hsilent.succ (fun _ => by rw [hleft]) (by rw [hleft]), rfl, rfl, rfl⟩
  | starts hfound hmoves hreplaces =>
    obtain ⟨t, hclaims, hsilent, hid, htype, hcount⟩ := hs
    exact ⟨t, hclaims.starts hsilent hid htype hcount hmoves hreplaces hleft⟩
  | launches hexecutor htask _ hlaunches =>
    obtain ⟨t, hclaims, hsilent, hattempted⟩ := hs
    subst htask
    refine ⟨t, hclaims.launches hsilent hattempted hpoll (by rw [hleft]; rfl) ?_ (by rw [hleft])⟩
    simpa [hleft, hexecutor] using hlaunches
  | stalls hinterval => exact .inr hinterval
  | lies => exact hs
  | fails hexecutor =>
    obtain ⟨t, hclaims, hsilent, hattempted⟩ := hs
    refine ⟨t, hclaims.launches hsilent hattempted hpoll (by rw [hleft]; rfl) ?_ (by rw [hleft])⟩
    simp [hleft, hexecutor]
  | waits =>
    obtain ⟨t, hpursues⟩ := hs
    exact ⟨t, hpursues.succ (by rw [hleft]; rfl) (fun _ => by rw [hleft]) (by rw [hleft])⟩
  | signs _ _ _ hreplaces =>
    obtain ⟨t, hpursues⟩ := hs
    refine ⟨t, hpursues.replaces ?_ hreplaces hleft⟩
    rfl
  | finishes _ hlaunches =>
    obtain ⟨t, hpursues⟩ := hs
    exact ⟨t, hpursues.succ (by rw [hleft]; rfl) (fun type => by rw [hleft, hlaunches])
      (by rw [hleft])⟩
  | settles hfound hsettled hreplaces =>
    obtain ⟨t, hpursues⟩ := hs
    obtain ⟨hid, htype, hcount⟩ := hpursues.attempted
    have hattempted : Attempted t _ := ⟨hsettled.id_eq.trans hid, hsettled.taskType.trans htype,
      by rw [hsettled.attemptCount]; exact hcount⟩
    exact ⟨t, { hpursues.replaces hsettled.id_eq hreplaces hleft with attempted := hattempted },
      hsettled.claimedBy, hsettled.status⟩
  | tells =>
    obtain ⟨t, hpursues, hfree, hstatus⟩ := hs
    exact ⟨t, _, hpursues.complete hpoll hbacked hfree hstatus hleft⟩
  | @rests ran =>
    cases ran with
    | false => exact hs.succ (idles_of_left hleft)
    | true =>
      obtain ⟨t, u, hcomplete⟩ := hs
      exact ⟨t, u, hcomplete.succ (idles_of_left hleft)⟩

/-- What is known of a poll at each of its turns. -/
theorem Undisturbed.stands (h : k.Undisturbed) (n : Nat) : k.Stands n (k.poll n) := by
  induction n with
  | zero => exact ⟨rfl, nofun, fun _ => rfl, rfl⟩
  | succ n ih => exact h.stands_succ ih

end Steps

/-- A poll that gets its turns comes to its end. -/
theorem Undisturbed.ends (h : k.Undisturbed) (hp : k.policy.heartbeatInterval ≠ 0)
    (hdue : k.IsDue) : ∃ n, (k.poll n).isOver = true :=
  exists_done (fun n => toLex (k.poll n).remaining) fun n hover =>
    (h.goes (h.backed n)).progress hp (hdue n) (Bool.eq_false_iff.mpr hover)

/-- **One poll is one complete attempt.** A poll that claimed a task has changed that task alone,
has launched its executor once and has settled and told it; a poll that claimed none has done
nothing. And a poll whose gate answers comes to one of these ends. -/
theorem poll_is_one_attempt (h : k.Undisturbed) :
    (∀ n, k.poll n = .ended true → ∃ t u, k.Complete n t u) ∧
    (∀ n, k.poll n = .ended false → k.Untouched n) ∧
    (k.policy.heartbeatInterval ≠ 0 → k.IsDue → (k.turns 0).place.gatePanics = 0 →
      ∃ n ran, k.poll n = .ended ran) := by
  refine ⟨fun n hn => ?_, fun n hn => ?_, fun hp hdue hgate => ?_⟩
  · have hstands := h.stands n
    rw [hn] at hstands
    exact hstands
  · have hstands := h.stands n
    rw [hn] at hstands
    exact hstands
  · obtain ⟨n, hover⟩ := h.ends hp hdue
    have hstands := h.stands n
    cases hn : k.poll n with
    | ended ran => exact ⟨n, ran, hn⟩
    | crashed =>
      rw [hn] at hstands
      exact absurd hstands (by simp [Stands, hgate, hp])
    | _ => rw [hn] at hover; cases hover

/-! ## Among others -/

/-- Where a poll stands, and what it finds, if others do something to the store after each of its
steps. -/
def amid (policy : DispatchPolicy) (worker : WorkerId) (clocks : Nat → Clocks)
    (others : Nat → Store → Store) (w : Workplace) : Nat → Poll × Workplace
  | 0 => (.gating, w)
  | n + 1 =>
    let (poll, found) := amid policy worker clocks others w n
    let (poll, left) := poll.step policy worker (clocks n) found
    (poll, { left with store := others n left.store })

/-- The course of a poll among others. -/
def ofOthers (policy : DispatchPolicy) (worker : WorkerId) (clocks : Nat → Clocks)
    (others : Nat → Store → Store) (w : Workplace) : Course where
  policy := policy
  worker := worker
  turns n := ⟨clocks n, (amid policy worker clocks others w n).2⟩

section Others

variable {policy : DispatchPolicy} {worker : WorkerId} {clocks : Nat → Clocks}
  {others : Nat → Store → Store} {w : Workplace}

theorem poll_ofOthers (n : Nat) : (ofOthers policy worker clocks others w).poll n =
    (amid policy worker clocks others w n).1 := by
  induction n with
  | zero => rfl
  | succ n ih => rw [poll, ih]; rfl

theorem store_ofOthers (n : Nat) : (ofOthers policy worker clocks others w).store (n + 1) =
    others n ((ofOthers policy worker clocks others w).left n).store := by
  rw [left, poll_ofOthers]
  rfl

/-- Others that keep the ids leave the store keyed. -/
theorem keyed_ofOthers (hk : w.store.Keyed) (hothers : ∀ n s, (others n s).ids = s.ids) (n : Nat) :
    ((ofOthers policy worker clocks others w).store n).Keyed := by
  induction n with
  | zero => exact hk
  | succ n ih =>
    rw [store_ofOthers]
    exact (Poll.keepsTypes_step policy worker (clocks n) _ ih).2.of_ids (hothers n _)

end Others

/-- Another worker claims a task during the attempt of a poll. -/
def rival (n : Nat) (s : Store) : Store := if n = 5 then (s.claim "b" "v" 1010).2 else s

/-- The launch of a task never ends, and is cut off after a sign of life. A task of another type
waits, and is claimed by another worker meanwhile. -/
def crossed : Course :=
  ofOthers (.ofSettings { heartbeatSecs := 1, taskTypes := ["impl"] }) "w"
    (fun n => if n < 5 then ⟨10, 0⟩ else if n < 6 then ⟨1010, 1000⟩ else ⟨1510, 1500⟩)
    rival
    { store := .memory {
        tasks := [.create "b" ⟨.test, "try", none, none⟩ 3 0,
          .create "a" ⟨.impl, "build", none, none⟩ 3 1] }
      gateway := {
        registry := Registry.register {} .impl {
          name := "hung", duration := fun _ _ => none, ending := fun _ _ _ => .panicked none }
        defaultLimit := 1500 }
      policy := .ofSettings {} }

theorem crossed_ended (n : Nat) : crossed.poll (9 + n) = .ended true := by
  induction n with
  | zero =>
    exact Poll.answer?_eq_some.mp (by decide +kernel)
  | succ n ih =>
    show (Poll.step _ _ _ (crossed.poll (9 + n)) _).1 = _
    rw [ih]
    rfl

/-- The turns of the poll before it has ended. -/
theorem crossed_turns : ∀ n < 9,
    ((crossed.poll n).hand?.all fun t =>
      t.id = "a" ∧ t.attemptCount.toNat + 1 < UInt32.size) = true ∧
    ((crossed.poll n).waitsUntil.all fun instant =>
      instant ≤ (crossed.turns n).clocks.steady) = true ∧
    (crossed.now n).toInt + ((crossed.turns n).place.policy.genericDelay : Int) ≤
      Int64.maxValue.toInt ∧
    (crossed.now n).toInt + ((crossed.turns n).place.policy.maxBackoff : Int) ≤
      Int64.maxValue.toInt := by
  decide +kernel

/-- Before the poll has ended, or after it. -/
theorem crossed_cases (n : Nat) : n < 9 ∨ crossed.poll n = .ended true := by
  by_cases h : n < 9
  · exact .inl h
  · obtain ⟨i, rfl⟩ := Nat.exists_eq_add_of_le (Nat.le_of_not_lt h)
    exact .inr (crossed_ended i)

theorem hand_crossed {n : Nat} (h : (crossed.poll n).hand? = some t) :
    t.id = "a" ∧ t.attemptCount.toNat + 1 < UInt32.size := by
  rcases crossed_cases n with hn | hn
  · have hall := (crossed_turns n hn).1
    rw [h] at hall
    simpa using hall
  · rw [hn] at h
    cases h

theorem rival_keeps (n : Nat) (s : Store) :
    s.KeepsTypes (rival n s) ∧ (rival n s).ids = s.ids := by
  unfold rival
  split
  · exact s.keepsTypes_claim "b" "v" 1010
  · exact ⟨(Store.Same.refl s).keepsTypes, rfl⟩

theorem rival_other {id : TaskId} (hid : id ≠ "b") (n : Nat) (s : Store) :
    (rival n s).task? id = s.task? id := by
  unfold rival
  split
  · rcases Store.claim_cases s "b" "v" 1010 with ⟨hsame, _⟩ | ⟨u, _, hwins⟩
    · rw [hsame.task?]
    · exact hwins.puts.other (by rw [hwins.id_eq]; exact hid)
  · rfl

theorem undisturbed_crossed : crossed.Undisturbed where
  keyed := keyed_ofOthers (by decide) fun n s => (rival_keeps n s).2
  types n := by
    rw [show crossed.store (n + 1) = rival n (crossed.left n).store from store_ofOthers n]
    exact (rival_keeps n _).1
  hand n t ht := by
    rw [show crossed.store (n + 1) = rival n (crossed.left n).store from store_ofOthers n]
    exact rival_other (by rw [(hand_crossed ht).1]; decide) n _
  counts n t ht := (hand_crossed (by rw [ht]; rfl)).2
  delays n r outcome hn := by
    rcases crossed_cases n with hlt | hended
    · obtain ⟨_, _, hgeneric, hbackoff⟩ := crossed_turns n hlt
      exact RetryPolicy.fits_of_le hgeneric hbackoff
    · rw [hended] at hn
      cases hn

theorem due_crossed : crossed.IsDue := by
  intro n instant hwaits
  rcases crossed_cases n with hlt | hended
  · have hall := (crossed_turns n hlt).2.1
    rw [hwaits] at hall
    simpa using hall
  · rw [hended] at hwaits
    cases hwaits

theorem poll_is_one_attempt_crossed :
    crossed.Undisturbed ∧ crossed.policy.heartbeatInterval ≠ 0 ∧ crossed.IsDue ∧
      (crossed.turns 0).place.gatePanics = 0 ∧ (∃ n ran, crossed.poll n = .ended ran) ∧
      ∃ t u, crossed.Complete 9 t u := by
  have hp : crossed.policy.heartbeatInterval ≠ 0 := by decide
  obtain ⟨hcomplete, _, hends⟩ := poll_is_one_attempt undisturbed_crossed
  exact ⟨undisturbed_crossed, hp, due_crossed, rfl, hends hp due_crossed rfl,
    hcomplete 9 (crossed_ended 0)⟩

end Course

/-! ## Polls of a pipeline -/

namespace Pipeline

variable {p : Pipeline} {policy : DispatchPolicy} {worker : WorkerId}

/-- Where a poll in a pipeline stands after so many steps, and the pipeline. -/
def polling (p : Pipeline) (policy : DispatchPolicy) (worker : WorkerId) : Nat → Poll × Pipeline
  | 0 => (.gating, p)
  | n + 1 =>
    visit policy worker (p.polling policy worker n).1 (p.polling policy worker n).2

/-- The course of a poll in a pipeline, where workers and reapers act while it waits. -/
def course (p : Pipeline) (policy : DispatchPolicy) (worker : WorkerId) : Course where
  policy := policy
  worker := worker
  turns n := (p.polling policy worker n).2.turn (p.polling policy worker n).1

theorem poll_course (n : Nat) :
    (p.course policy worker).poll n = (p.polling policy worker n).1 := by
  induction n with
  | zero => rfl
  | succ n ih => rw [Course.poll, ih]; rfl

theorem due_course : (p.course policy worker).IsDue := by
  intro n
  rw [poll_course]
  exact due_turn _ _

/-- A poll that is seen through comes to what it answers. -/
theorem ended_of_finishPoll {ran : Bool} {p' : Pipeline} {fuel m : Nat}
    (h : finishPoll policy worker fuel (p.polling policy worker m).1
      (p.polling policy worker m).2 = (some ran, p')) :
    ∃ n, (p.polling policy worker n).1 = .ended ran ∧ (p.polling policy worker n).2 = p' := by
  induction fuel generalizing m with
  | zero => cases h
  | succ fuel ih =>
    cases hover : (p.polling policy worker m).1.isOver with
    | false =>
      rw [finishPoll_visit hover] at h
      exact ih (m := m + 1) h
    | true =>
      rw [finishPoll_over hover] at h
      obtain ⟨hanswer, hp'⟩ := Prod.mk.inj h
      exact ⟨m, Poll.answer?_eq_some.mp hanswer, hp'⟩

/-- A poll in a pipeline answers what its course comes to. -/
theorem ended_of_poll {ran : Bool} {p' : Pipeline} (h : p.poll policy worker = (some ran, p')) :
    ∃ n, (p.course policy worker).poll n = .ended ran ∧ (p.polling policy worker n).2 = p' := by
  obtain ⟨n, hn, hp'⟩ := ended_of_finishPoll (m := 0) h
  exact ⟨n, (poll_course n).trans hn, hp'⟩

end Pipeline

end TaskPipeline
