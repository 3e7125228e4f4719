import TaskPipeline.Proofs.Store.Query
import TaskPipeline.Proofs.Task.Overflow

/-!
# The two stores agree

A store in memory and a table that are taken through the same history answer alike at every call,
and in the end they hold the same tasks (`stores_agree`). They part where a sum leaves its range: a
store in memory panics in its caller, and a table, which works in a task of its own, tells its
caller about the panic (`stores_part`). `Matches` relates the two while they go; `matches_perform`
shows that every call keeps it.
-/

namespace TaskPipeline

/-! ## What the stores may differ in -/

/-- Replies that say the same. The order in which a sweep reports does not count. -/
inductive Reply.Agrees : Reply → Reply → Prop where
  | same (q : Reply) : Agrees q q
  | reclaimed {rs rs' : List (TaskId × Reclaimed)} : rs.Perm rs' →
      Agrees (.reclaimed rs) (.reclaimed rs')
  | expired {ids ids' : List TaskId} : ids.Perm ids' → Agrees (.expired ids) (.expired ids')

/-- Answers that agree: replies that do, or the same error. -/
inductive Agree : Answer Reply → Answer Reply → Prop where
  | ok {q q' : Reply} : q.Agrees q' → Agree (.ok q) (.ok q')
  | error (e : StoreError) : Agree (.error e) (.error e)

theorem Agree.refl (r : Answer Reply) : Agree r r := by
  cases r with
  | ok q => exact .ok (.same q)
  | error e => exact .error e

/-- The call asks a task for a sum that leaves its range. -/
def Moment.Overflows (m : Moment) : Prop :=
  ∃ id op t, m.call.asks = some (id, op) ∧ m.before.task? id = some t ∧ t.Overflows m.now op

/-- What a store in memory and a table make of the same call. -/
structure Moment.Agrees (m m' : Moment) : Prop where
  /-- They answer alike. -/
  alike : ¬m.Overflows → Agree m.reply m'.reply
  /-- Where a sum leaves its range the one panics and the other tells of it, and neither changes. -/
  apart : m.Overflows →
    m.reply = .error .panicked ∧ m.after = m.before ∧
      m'.reply = .error .join ∧ m'.after = m'.before

theorem Moment.Agrees.of_agree {m m' : Moment} (hasks : m.call.asks = none)
    (h : Agree m.reply m'.reply) : m.Agrees m' where
  alike _ := h
  apart := fun ⟨_, _, _, hsome, _⟩ => nomatch hasks.symm.trans hsome

/-! ## What a history is to respect -/

/-- The origins of the tasks that a history creates. -/
def History.origins (history : History) : List Origin :=
  history.filterMap fun e => match e.2 with
    | .create id new _ => some ⟨id, e.1, new.context⟩
    | _ => none

/-- The clock does not go back, no id is generated twice, contexts are read back as they are
written, and offsets and the number of tasks are within what a table can count. -/
structure History.Regular (history : History) : Prop where
  clock : (history.map (·.1)).Pairwise (· ≤ ·)
  ids : history.created.Nodup
  contexts : ∀ now id new asked, (now, .create id new asked) ∈ history → Row.Legible new.context
  offsets : ∀ now f, (now, .list f) ∈ history → f.offset.toNat < TableStore.capacity
  size : history.created.length < TableStore.capacity

theorem History.ids_origins (history : History) :
    history.origins.map (·.id) = history.created := by
  rw [origins, created, List.map_filterMap]
  congr 1
  funext e
  cases e.2 <;> rfl

theorem History.mem_origins {history : History} {o : Origin} (h : o ∈ history.origins) :
    ∃ new asked, (o.createdAt, .create o.id new asked) ∈ history ∧ o.context = new.context := by
  obtain ⟨⟨now, c⟩, he, hc⟩ := List.mem_filterMap.mp h
  cases c <;> cases hc
  exact ⟨_, _, he, rfl⟩

theorem History.Regular.sound {history : History} (h : history.Regular) :
    Sound history.origins where
  distinct := by rw [ids_origins]; exact h.ids
  ordered := by
    rw [origins, List.pairwise_filterMap]
    refine (List.pairwise_map.mp h.clock).imp ?_
    intro a b hle o ho p hp
    obtain ⟨now, c⟩ := a
    obtain ⟨later, d⟩ := b
    cases c <;> cases ho
    cases d <;> cases hp
    exact hle
  legible o ho := by
    obtain ⟨new, asked, he, hc⟩ := mem_origins ho
    rw [hc]
    exact h.contexts _ _ _ _ he

/-- An operation that is answered about panics where it does by itself. -/
theorem Task.carry_overflow {t : Task} {op : Operation} {now : Instant} :
    t.carry op now = .error .overflow ↔ t.Overflows now op := by
  rw [← apply_overflow, ← map_carry, map_eq_error]

/-! ## Tasks keep their origins -/

namespace MemoryStore

variable {m : MemoryStore}

/-- The origins of the tasks, in the order of creation. -/
def origins (m : MemoryStore) : List Origin := m.tasks.map Task.origin

theorem origins_put {t u : Task} (hd : m.Distinct) (ht : m.find? u.id = some t)
    (hu : u.origin = t.origin) : (m.put u).origins = m.origins := by
  unfold origins put
  rw [List.map_map]
  refine List.map_congr_left ?_
  intro v hv
  show (if v.id = u.id then u else v).origin = v.origin
  split
  · next he => rw [hu, eq_of_find? hd ht hv he]
  · rfl

theorem origin_adopted {us : List Task} (hd : m.Distinct)
    (hus : ∀ u ∈ us, ∃ v ∈ m.tasks, u.origin = v.origin) {t : Task} (ht : t ∈ m.tasks) :
    (t.adopted us).origin = t.origin := by
  unfold Task.adopted
  split
  · next u hu =>
    obtain ⟨v, hv, ho⟩ := hus u (List.mem_of_find?_eq_some hu)
    have hid : u.id = t.id := by simpa using List.find?_some hu
    have hvt : v = t := Task.eq_of_mem hd hv ht ((congrArg (·.id) ho).symm.trans hid)
    rw [← hvt, ← ho]
    show (⟨u.id, u.createdAt, v.context⟩ : Origin) = u.origin
    rw [← show u.context = v.context from congrArg (·.context) ho]
    rfl
  · rfl

theorem origins_adopt {us : List Task} (hd : m.Distinct)
    (hus : ∀ u ∈ us, ∃ v ∈ m.tasks, u.origin = v.origin) : (m.adopt us).origins = m.origins := by
  unfold origins adopt
  rw [List.map_map]
  exact List.map_congr_left fun t ht => origin_adopted hd hus ht

/-- If tasks are read as they are, an operation does not depend on the reading. -/
theorem asked_reread (h : ∀ t ∈ m.tasks, t.reread = .ok t) (fail : Fault → StoreError)
    (now : Instant) (id : TaskId) (op : Operation) :
    m.asked Task.reread fail now id op = m.asked .ok fail now id op := by
  cases hf : m.find? id with
  | none => rw [asked_missing hf, asked_missing hf]
  | some t => simp only [asked, hf, h t (mem_of_find? hf)]

/-- How a store fails shows in the answer alone. -/
theorem asked_fail (fail fail' : Fault → StoreError) (now : Instant) (id : TaskId)
    (op : Operation) : (m.asked .ok fail now id op).2 = (m.asked .ok fail' now id op).2 := by
  cases hf : m.find? id with
  | none => rw [asked_missing hf, asked_missing hf]
  | some t =>
    cases hc : t.carry op now with
    | error e => rw [asked_refused hf rfl hc, asked_refused hf rfl hc]
    | ok r => rw [asked_carried hf rfl hc, asked_carried hf rfl hc]

/-- A store in memory and a table fail alike, unless the operation panics. -/
theorem asked_alike {now : Instant} {id : TaskId} {op : Operation}
    (h : ∀ t, m.find? id = some t → ¬t.Overflows now op) :
    (m.asked .ok .inTask now id op).1 = (m.asked .ok .inCaller now id op).1 := by
  cases hf : m.find? id with
  | none => rw [asked_missing hf, asked_missing hf]
  | some t =>
    cases hc : t.carry op now with
    | error e =>
      rw [asked_refused hf rfl hc, asked_refused hf rfl hc]
      cases e with
      | refused cause => cases op <;> rfl
      | overflow => exact absurd (Task.carry_overflow.mp hc) (h t hf)
    | ok r => rw [asked_carried hf rfl hc, asked_carried hf rfl hc]

/-- An operation that panics is answered as the store fails. -/
theorem asked_overflow {now : Instant} {id : TaskId} {op : Operation} {t : Task}
    (hf : m.find? id = some t) (h : t.Overflows now op) (fail : Fault → StoreError) :
    m.asked .ok fail now id op = (.error (fail .overflow), m) := by
  rw [asked_refused hf rfl (Task.carry_overflow.mpr h)]
  cases h <;> rfl

theorem asked_keeps (hd : m.Distinct) (now : Instant) (id : TaskId) (op : Operation) :
    (m.asked .ok .inCaller now id op).2.origins = m.origins ∧
      (m.asked .ok .inCaller now id op).2.marker = m.marker ∧
      (m.asked .ok .inCaller now id op).2.fatal = m.fatal := by
  cases hf : m.find? id with
  | none => rw [asked_missing hf]; exact ⟨rfl, rfl, rfl⟩
  | some t =>
    cases hc : t.carry op now with
    | error e => rw [asked_refused hf rfl hc]; exact ⟨rfl, rfl, rfl⟩
    | ok r =>
      obtain ⟨q, u⟩ := r
      obtain ⟨hid, _, _, hcontext, hcreated⟩ := (Task.moves_of_carry hc).keeps
      have hu : u.origin = t.origin := by simp only [Task.origin, hid, hcreated, hcontext]
      rw [asked_whole hf rfl hc]
      exact ⟨origins_put hd (by rw [hid, id_of_find? hf]; exact hf) hu, rfl, rfl⟩

end MemoryStore

/-! ## Records -/

namespace TableStore

theorem lookup_cons_ne {k key : String} (h : k ≠ key) (text : String)
    (rs : List (String × String)) : ((key, text) :: rs).lookup k = rs.lookup k := by
  rw [List.lookup_cons, beq_false_of_ne h]

theorem lookup_overwritten (key text k : String) (rs : List (String × String)) :
    (rs.map fun r => if r.1 = key then (key, text) else r).lookup k =
      if k = key then (rs.lookup k).map fun _ => text else rs.lookup k := by
  induction rs with
  | nil => simp
  | cons r rs ih =>
    obtain ⟨key', text'⟩ := r
    rw [List.map_cons]
    by_cases hkey : key' = key
    · subst hkey
      rw [if_pos rfl]
      by_cases hk : k = key'
      · subst hk; simp [List.lookup_cons_self]
      · rw [lookup_cons_ne hk, lookup_cons_ne hk, ih]
    · rw [if_neg hkey]
      by_cases hk : k = key'
      · subst hk; simp [List.lookup_cons_self, hkey]
      · rw [lookup_cons_ne hk, lookup_cons_ne hk, ih]

theorem any_eq_isSome_lookup (key : String) (rs : List (String × String)) :
    rs.any (·.1 == key) = (rs.lookup key).isSome := by
  induction rs with
  | nil => rfl
  | cons r rs ih =>
    obtain ⟨key', text⟩ := r
    rw [List.any_cons, ih]
    by_cases h : key = key'
    · subst h; simp [List.lookup_cons_self]
    · rw [lookup_cons_ne h]; simp [Ne.symm h]

/-- A text is found under the key that it was put under; the others are found as before. -/
theorem lookup_putRecord (s : TableStore) (key text k : String) :
    (s.putRecord key text).records.lookup k =
      if k = key then some text else s.records.lookup k := by
  unfold putRecord
  rw [any_eq_isSome_lookup]
  split
  · next hany =>
    obtain ⟨old, hold⟩ := Option.isSome_iff_exists.mp hany
    rw [lookup_overwritten]
    by_cases hk : k = key
    · subst hk; simp [hold]
    · simp [hk]
  · next hany =>
    have hnone : s.records.lookup key = none := Option.not_isSome_iff_eq_none.mp hany
    rw [List.lookup_append]
    by_cases hk : k = key
    · subst hk; simp [hnone, List.lookup_cons_self]
    · rw [lookup_cons_ne hk]; simp [hk]

theorem readRecord_toText {α : Type} {s : TableStore} {key : String} {read : Json → Option α}
    {toText : α → String} (hread : ∀ a, (Json.parse? (toText a)).bind read = some a)
    {o : Option α} (h : s.records.lookup key = o.map toText) : s.readRecord key read = .ok o := by
  unfold readRecord
  cases o with
  | none => simp only [h, Option.map_none]
  | some a => simp only [h, Option.map_some, hread a]

/-! ## Stores that match -/

/-- A table and a store in memory that have come to the same point: the rows are those of the tasks,
and the records are the texts of the marker and of the fatal issue. -/
structure Matches (s : TableStore) (m : MemoryStore) : Prop where
  mirrors : s.Mirrors m
  marker : s.records.lookup markerKey = m.marker.map (·.toJson.toText)
  fatal : s.records.lookup fatalKey = m.fatal.map (·.toJson.toText)

variable {s : TableStore} {m : MemoryStore}

theorem Matches.readMarker (h : s.Matches m) : s.readMarker = m.readMarker :=
  readRecord_toText PipelineMarker.read_toText h.marker

theorem Matches.fatalIssue (h : s.Matches m) : s.fatalIssue = m.fatalIssue :=
  readRecord_toText FatalIssue.read_toText h.fatal

/-- The two stores answer alike and match again. -/
def InStep (origins : List Origin) (step step' : Answer Reply × Store) : Prop :=
  ∃ m' s', step.2 = .memory m' ∧ step'.2 = .table s' ∧ Agree step.1 step'.1 ∧ s'.Matches m' ∧
    m'.origins = origins

/-- The two stores make the same of a call, or part over it, and match again. -/
def Follow (origins : List Origin) (m m' : Moment) : Prop :=
  ∃ n s, m.after = .memory n ∧ m'.after = .table s ∧ m.Agrees m' ∧ s.Matches n ∧
    n.origins = origins

/-- A call that asks nothing of a task. -/
theorem InStep.follow {origins : List Origin} {s s' : Store} {now : Instant} {c : Call}
    (h : InStep origins (s.perform now c) (s'.perform now c)) (hasks : c.asks = none) :
    Follow origins (s.moment now c) (s'.moment now c) := by
  obtain ⟨n, t, hn, ht, hagree, hmatches, horigins⟩ := h
  exact ⟨n, t, hn, ht, .of_agree hasks hagree, hmatches, horigins⟩

/-- A call that creates nothing. -/
theorem InStep.still {origins : List Origin} {step step' : Answer Reply × Store}
    {history : History} (h : InStep origins step step') (hnone : history.origins = []) :
    InStep (origins ++ history.origins) step step' := by
  rw [hnone, List.append_nil]
  exact h

section Step

variable (h : s.Matches m) (hsound : Sound m.origins)

include h

/-- A call that only reads. -/
theorem inStep_query {α : Type} {r r' : Answer α} (hr : r' = r) (wrap : α → Reply) :
    InStep m.origins (r.map wrap, .memory m) (r'.map wrap, .table s) := by
  subst hr
  exact ⟨m, s, rfl, rfl, .refl _, h, rfl⟩

theorem inStep_create (now : Instant) (id : TaskId) (new : NewTask) (asked : UInt32) :
    InStep (m.origins ++ [⟨id, now, new.context⟩])
      ((Store.memory m).perform now (.create id new asked))
      ((Store.table s).perform now (.create id new asked)) := by
  refine ⟨_, _, rfl, rfl, .refl _, ⟨?_, h.marker, h.fatal⟩, List.map_append⟩
  show s.rows ++ [_] = (m.tasks ++ [_]).map Row.ofTask
  rw [h.mirrors, List.map_append]
  rfl

theorem matches_putMarker (marker : PipelineMarker) :
    (s.putRecord markerKey marker.toJson.toText).Matches { m with marker := some marker } where
  mirrors := (rows_putRecord _ _ _).trans h.mirrors
  marker := by rw [lookup_putRecord, if_pos rfl]; rfl
  fatal := by rw [lookup_putRecord, if_neg (by decide)]; exact h.fatal

theorem matches_putFatal (issue : FatalIssue) :
    (s.putRecord fatalKey issue.toJson.toText).Matches { m with fatal := some issue } where
  mirrors := (rows_putRecord _ _ _).trans h.mirrors
  marker := by rw [lookup_putRecord, if_neg (by decide)]; exact h.marker
  fatal := by rw [lookup_putRecord, if_pos rfl]; rfl

theorem inStep_heartbeat (now beat : Instant) :
    InStep m.origins ((Store.memory m).perform now (.heartbeatMarker beat))
      ((Store.table s).perform now (.heartbeatMarker beat)) := by
  have hread : s.readMarker = .ok m.marker := h.readMarker
  simp only [Store.perform, Store.answered, Store.heartbeatMarker, Store.lift, heartbeatMarker,
    MemoryStore.heartbeatMarker, hread]
  cases hm : m.marker with
  | none =>
    refine ⟨_, s, rfl, rfl, .refl _, ⟨h.mirrors, ?_, h.fatal⟩, rfl⟩
    rw [h.marker, hm]
    rfl
  | some marker =>
    exact ⟨_, _, rfl, rfl, .refl _, matches_putMarker h { marker with heartbeatAt := beat }, rfl⟩

include hsound

/-- A call that asks something of a task, as both stores answer it. -/
theorem agrees_asks {now : Instant} {c : Call} {id : TaskId} {op : Operation}
    (hc : c.asks = some (id, op)) :
    ((Store.memory m).moment now c).Agrees ((Store.table s).moment now c) := by
  have hd : m.Distinct := MemoryStore.distinct_sound hsound
  have hmemory := m.perform_asks now hc
  obtain ⟨s', htable, hmirrors, hrecords⟩ := perform_asks h.mirrors hd now hc
  rw [MemoryStore.asked_reread (Task.reread_sound hsound)] at htable hmirrors
  have hfound : (Store.memory m).task? = m.find? := Store.task?_memory m
  refine ⟨fun halike => ?_, ?_⟩
  · show Agree ((Store.memory m).perform now c).1 ((Store.table s).perform now c).1
    have hquiet : ∀ t, m.find? id = some t → ¬t.Overflows now op := fun t ht hover =>
      halike ⟨id, op, t, hc, (congrFun hfound id).trans ht, hover⟩
    rw [hmemory, htable, MemoryStore.asked_alike hquiet]
    exact .refl _
  · rintro ⟨_, _, t, hc', ht, hover⟩
    cases hc.symm.trans hc'
    have hasked : ∀ fail, m.asked .ok fail now id op = (.error (fail .overflow), m) :=
      MemoryStore.asked_overflow ((congrFun hfound id).symm.trans ht) hover
    rw [hasked] at hmemory htable hmirrors
    -- The rows are those of the same tasks, and the records have not been touched.
    have hsame : s' = s := by
      obtain ⟨rows, records⟩ := s'
      obtain rfl : rows = s.rows := hmirrors.trans h.mirrors.symm
      obtain rfl : records = s.records := hrecords
      rfl
    exact ⟨congrArg Prod.fst hmemory, congrArg Prod.snd hmemory, congrArg Prod.fst htable,
      (congrArg Prod.snd htable).trans (congrArg Store.table hsame)⟩

theorem follow_asks (now : Instant) {c : Call} {id : TaskId} {op : Operation}
    (hc : c.asks = some (id, op)) :
    Follow m.origins ((Store.memory m).moment now c) ((Store.table s).moment now c) := by
  have hd : m.Distinct := MemoryStore.distinct_sound hsound
  obtain ⟨s', htable, hmirrors, hrecords⟩ := perform_asks h.mirrors hd now hc
  rw [MemoryStore.asked_reread (Task.reread_sound hsound),
    MemoryStore.asked_fail .inTask .inCaller] at hmirrors
  obtain ⟨horigins, hmarker, hfatal⟩ := MemoryStore.asked_keeps hd now id op
  refine ⟨_, s', congrArg Prod.snd (m.perform_asks now hc), congrArg Prod.snd htable,
    agrees_asks h hsound hc, ⟨hmirrors, ?_, ?_⟩, horigins⟩
  · rw [hrecords, hmarker]; exact h.marker
  · rw [hrecords, hfatal]; exact h.fatal

/-- A sweep of the table changes the tasks that a sweep in memory does. -/
theorem sweep_matches {α : Type} {statuses : List TaskStatus} {cutoff : Instant}
    {select : Task → Bool} {change : Task → Except Fault (α × Task)}
    (hsweep : Sweeps statuses cutoff select change) :
    ∃ reports m' s', MemoryStore.sweep select change m.tasks = (reports, m'.tasks) ∧
      m' = { m with tasks := m'.tasks } ∧
      s.sweep statuses cutoff change = (.ok reports, s') ∧ s'.Matches m' ∧
      m'.origins = m.origins := by
  have hd : m.Distinct := MemoryStore.distinct_sound hsound
  have hselected := Task.sound_filter hsound select
  have hread : (byAge (m.tasks.filter select)).mapM Task.reread = .ok (m.tasks.filter select) := by
    rw [byAge_sound hselected, Task.mapM_reread (Task.reread_sound hselected)]
  rcases sweep_mirrored hsweep h.mirrors hd with
    ⟨e, he, _⟩ | ⟨vs, rs, s', hvs, hrs, hstep, hmirrors, hrecords⟩
  · rw [hread] at he
    cases he
  rw [hread] at hvs
  cases hvs
  have hchanged : ∀ u ∈ rs.map (·.2), ∃ v ∈ m.tasks, u.origin = v.origin := by
    intro u hu
    obtain ⟨r, hr, rfl⟩ := List.mem_map.mp hu
    obtain ⟨v, hv, hchange⟩ := exists_of_forall₂ hrs hr
    obtain ⟨hid, _, _, hcontext, hcreated⟩ := hsweep.keeps hchange
    exact ⟨v, List.mem_of_mem_filter hv, by simp only [Task.origin, hid, hcreated, hcontext]⟩
  have hkeeps : ∀ {t a u}, change t = .ok (a, u) → u.id = t.id ∧ u.context = t.context :=
    fun hc => ⟨(hsweep.keeps hc).1, (hsweep.keeps hc).2.2.2.1⟩
  have hmemory := MemoryStore.sweep_adopts hkeeps hd hrs
  refine ⟨_, m.adopt (rs.map (·.2)), s', hmemory, rfl, hstep, ⟨hmirrors, ?_, ?_⟩,
    MemoryStore.origins_adopt hd hchanged⟩
  · rw [hrecords]; exact h.marker
  · rw [hrecords]; exact h.fatal

theorem inStep_reclaimStale (now cutoff : Instant) :
    InStep m.origins ((Store.memory m).perform now (.reclaimStale cutoff))
      ((Store.table s).perform now (.reclaimStale cutoff)) := by
  obtain ⟨reports, m', s', hmemory, hm', htable, hmatches, horigins⟩ :=
    sweep_matches h hsound (sweeps_reclaim cutoff now)
  simp only [Store.perform, Store.answered, Store.reclaimStale, Store.lift, reclaimStale,
    MemoryStore.reclaimStale, hmemory, htable]
  exact ⟨m', s', by rw [← hm'], rfl, .ok (.reclaimed (.refl _)), hmatches, horigins⟩

theorem inStep_expireDecisions (now cutoff : Instant) :
    InStep m.origins ((Store.memory m).perform now (.expireDecisions cutoff))
      ((Store.table s).perform now (.expireDecisions cutoff)) := by
  obtain ⟨reports, m', s', hmemory, hm', htable, hmatches, horigins⟩ :=
    sweep_matches h hsound (sweeps_expire cutoff now)
  simp only [Store.perform, Store.answered, Store.expireDecisions, Store.lift, expireDecisions,
    MemoryStore.expireDecisions, hmemory, htable]
  exact ⟨m', s', by rw [← hm'], rfl, .ok (.expired (.refl _)), hmatches, horigins⟩

/-- **Every call is answered alike by stores that match, and they match again.** -/
theorem matches_perform (now : Instant) (c : Call) (hsize : m.tasks.length < TableStore.capacity)
    (hoffset : ∀ f, c = .list f → f.offset.toNat < TableStore.capacity) :
    Follow (m.origins ++ History.origins [(now, c)]) ((Store.memory m).moment now c)
      ((Store.table s).moment now c) := by
  cases hasks : c.asks with
  | some p =>
    have hnone : History.origins [(now, c)] = [] := by cases c <;> first | rfl | cases hasks
    rw [hnone, List.append_nil]
    exact follow_asks h hsound now hasks
  | none =>
    suffices hstep : InStep (m.origins ++ History.origins [(now, c)])
      ((Store.memory m).perform now c) ((Store.table s).perform now c) from hstep.follow hasks
    cases c with
    | claim | start | touch | recordOutcome | resolve | reopen | cancel => cases hasks
    | create id new asked => exact inStep_create h now id new asked
    | get id => exact (inStep_query h (get_mirrored h.mirrors hsound id) _).still rfl
    | list f =>
      exact (inStep_query h (list_mirrored h.mirrors hsound (hoffset f rfl)) _).still rfl
    | snapshot => exact (inStep_query h (snapshot_mirrored h.mirrors hsound) _).still rfl
    | claimable types limit =>
      have hr := claimable_mirrored h.mirrors hsound types limit now hsize
      exact (inStep_query h hr _).still rfl
    | reclaimStale cutoff => exact (inStep_reclaimStale h hsound now cutoff).still rfl
    | expireDecisions cutoff => exact (inStep_expireDecisions h hsound now cutoff).still rfl
    | writeMarker marker =>
      refine InStep.still ?_ rfl
      exact ⟨_, _, rfl, rfl, .refl _, matches_putMarker h marker, rfl⟩
    | readMarker => exact (inStep_query h h.readMarker _).still rfl
    | heartbeatMarker beat => exact (inStep_heartbeat h now beat).still rfl
    | recordFatal issue =>
      refine InStep.still ?_ rfl
      exact ⟨_, _, rfl, rfl, .refl _, matches_putFatal h issue, rfl⟩
    | fatalIssue => exact (inStep_query h h.fatalIssue _).still rfl

end Step

end TableStore

/-! ## Histories -/

/-- Stores that match go through a history in step. The origins of the tasks in memory grow along
those of the history, so they are sound all the way if they are in the end. -/
theorem traces_agree {s : TableStore} {m : MemoryStore} (h : s.Matches m) {history : History}
    (hsound : Sound (m.origins ++ history.origins))
    (hsize : (m.origins ++ history.origins).length < TableStore.capacity)
    (hoffsets : ∀ now f, (now, .list f) ∈ history → f.offset.toNat < TableStore.capacity) :
    List.Forall₂ Moment.Agrees ((Store.memory m).trace history) ((Store.table s).trace history) ∧
      ∃ m' s', (Store.memory m).run history = .memory m' ∧
        (Store.table s).run history = .table s' ∧ s'.Matches m' ∧
        m'.origins = m.origins ++ history.origins := by
  induction history generalizing s m with
  | nil => exact ⟨.nil, m, s, rfl, rfl, h, (List.append_nil _).symm⟩
  | cons e rest ih =>
    obtain ⟨now, c⟩ := e
    have hsplit : History.origins ((now, c) :: rest) =
        History.origins [(now, c)] ++ History.origins rest :=
      List.filterMap_append (l := [(now, c)])
    rw [hsplit, ← List.append_assoc] at hsound hsize ⊢
    have hnow : Sound m.origins :=
      (hsound.sublist (List.sublist_append_left _ _)).sublist (List.sublist_append_left _ _)
    have hlength : m.tasks.length < TableStore.capacity := by
      have hl : m.origins.length = m.tasks.length := List.length_map _
      rw [List.length_append, List.length_append] at hsize
      omega
    obtain ⟨m', s', hmemory, htable, hagree, hmatches, horigins⟩ :=
      TableStore.matches_perform h hnow now c hlength fun f hc => hoffsets now f (by simp [hc])
    rw [← horigins] at hsound hsize ⊢
    obtain ⟨hrest, hrun⟩ := ih hmatches hsound hsize fun later f hf =>
      hoffsets later f (List.mem_cons_of_mem _ hf)
    rw [← hmemory, ← htable] at hrest hrun
    exact ⟨.cons hagree hrest, hrun⟩

/-- **The two stores are one contract, but for panics**: through every history that respects the
clock, the ids and the limits of a table, a store in memory and a table answer alike, and hold the
same tasks in the end. The one exception is a call that asks a task for a sum that leaves its range:
then the store in memory panics, the table answers with an error, and neither changes. -/
theorem stores_agree (history : History) (h : history.Regular) :
    List.Forall₂ Moment.Agrees ((Store.memory {}).trace history)
        ((Store.table {}).trace history) ∧
      ∃ ts, ((Store.memory {}).run history).snapshot = .ok ts ∧
        ((Store.table {}).run history).snapshot = .ok ts := by
  have hempty : TableStore.Matches {} {} := ⟨rfl, rfl, rfl⟩
  have hsize : history.origins.length < TableStore.capacity := by
    rw [← List.length_map (·.id), History.ids_origins]
    exact h.size
  obtain ⟨hmoments, m, s, hmemory, htable, hmatches, horigins⟩ :=
    traces_agree hempty h.sound hsize h.offsets
  have hsound : Sound m.origins := horigins ▸ h.sound
  rw [hmemory, htable]
  exact ⟨hmoments, m.tasks, rfl, TableStore.snapshot_mirrored hmatches.mirrors hsound⟩

/-- A delay so long that no instant lies that far ahead. -/
def endless : Decision :=
  .retry ⟨1, .flakyOrNetwork, "b", "n", "connection refused", 2⟩ Int64.maxValue

/-- Two tasks of one instant. The older one is to wait for an instant that there is not, and is then
taken from its worker, who has fallen silent. -/
def handover : History :=
  [(0, .create "a" ⟨.impl, "build", some (.str "notes"), none⟩ 3),
    (0, .create "b" ⟨.impl, "test", none, none⟩ 1), (1, .claimable [.impl] 5),
    (1, .claim "a" "first"), (1, .claim "a" "second"), (2, .start "a" "first"),
    (3, .start "c" "first"), (4, .recordOutcome "a" 1 endless), (9, .reclaimStale 5),
    (9, .list ⟨some .pending, none, none, 1⟩), (9, .writeMarker ⟨"v1", 7, 9, 9⟩),
    (10, .heartbeatMarker 10), (10, .readMarker), (11, .cancel "b"), (11, .snapshot)]

theorem regular_handover : handover.Regular where
  clock := by decide
  ids := by decide
  contexts now id new asked h := by
    have hread : Row.freeForm? (Json.str "notes").toText = some (.str "notes") := by
      rw [Row.freeForm?, Json.parse_toText (by simp only [Json.Plain])]
      rfl
    intro c hc
    simp [handover] at h
    rcases h with ⟨_, _, rfl, _⟩ | ⟨_, _, rfl, _⟩ <;> cases hc
    exact hread
  offsets now f h := by
    simp [handover] at h
    obtain ⟨_, rfl⟩ := h
    decide
  size := by decide

theorem stores_agree_handover :
    handover.Regular ∧
      (((Store.memory {}).trace handover).map (·.reply.isOk)) =
        [true, true, true, true, true, true, false, false, true, true, true, true, true, true,
          true] ∧
      List.Forall₂ Moment.Agrees ((Store.memory {}).trace handover)
        ((Store.table {}).trace handover) ∧
      ∃ ts, ((Store.memory {}).run handover).snapshot = .ok ts ∧
        ((Store.table {}).run handover).snapshot = .ok ts :=
  ⟨regular_handover, by decide, stores_agree handover regular_handover⟩

/-- **The two stores part over a panic**: the outcome of the running task is answered by the table,
and by the store in memory it is not. -/
theorem stores_part :
    handover.Regular ∧
      (((Store.memory {}).trace handover)[7]?.map (·.reply)) = some (.error .panicked) ∧
      (((Store.table {}).trace handover)[7]?.map (·.reply)) = some (.error .join) ∧
      ¬List.Forall₂ Agree (((Store.memory {}).trace handover).map (·.reply))
        (((Store.table {}).trace handover).map (·.reply)) := by
  have hmemory : ((Store.memory {}).trace handover)[7]?.map (·.reply) =
      some (.error .panicked) := by rfl
  have htable : ((Store.table {}).trace handover)[7]?.map (·.reply) =
      some (.error .join) := by rfl
  refine ⟨regular_handover, hmemory, htable, fun h => ?_⟩
  rw [← List.getElem?_map] at hmemory htable
  obtain ⟨hlt, hpanics⟩ := List.getElem?_eq_some_iff.mp hmemory
  obtain ⟨hlt', htells⟩ := List.getElem?_eq_some_iff.mp htable
  have hagree := h.get hlt hlt'
  rw [List.get_eq_getElem, List.get_eq_getElem, hpanics, htells] at hagree
  cases hagree

end TaskPipeline
