import TaskPipeline.Monitor
import TaskPipeline.Proofs.Task.Operation

/-!
# Issues by their rank

A monitor lists at most one issue of each kind, since each part of its list is about a kind of its
own, and no two kinds are equally severe. So the list falls strictly in severity (`ranked_issues`),
and the number of tasks decides no place in it.
-/

namespace TaskPipeline

theorem IssueKind.severity_inj {k l : IssueKind} : k.severity = l.severity ↔ k = l := by
  cases k <;> cases l <;> decide

namespace Issue

variable {n : Nat} {kind : IssueKind} {tasks : List Task} {what : String} {i : Issue}
  {issues : List Issue}

/-! ## The kinds in a list -/

theorem mem_whenAtLeast :
    i ∈ whenAtLeast n kind tasks what ↔ n ≤ tasks.length ∧ i = about kind tasks what := by
  unfold whenAtLeast
  split
  · next h => simp [h]
  · next h => simp [h]

theorem kinds_whenAtLeast (n : Nat) (kind : IssueKind) (tasks : List Task) (what : String) :
    ((whenAtLeast n kind tasks what).map (·.kind)).Sublist [kind] := by
  unfold whenAtLeast
  split
  · exact List.Sublist.refl [kind]
  · exact List.nil_sublist [kind]

theorem kinds_ofVersions (marker : PipelineMarker) (deployed : Option String) :
    ((ofVersions marker deployed).map (·.kind)).Sublist [.stalePipelineVersion] := by
  unfold ofVersions
  split
  · exact List.nil_sublist _
  · split
    · exact List.nil_sublist _
    · exact List.Sublist.refl _

/-- The issues with tasks come kind by kind. -/
theorem kinds_ofTasks (tasks : List Task) (staleAfter : Span) (now : Instant) :
    ((ofTasks tasks staleAfter now).map (·.kind)).Sublist
      [.needsDecision, .repeatedQuotaExceeded, .repeatedEnvOrSecrets, .stuckClaims] := by
  simp only [ofTasks, List.map_append]
  exact (((kinds_whenAtLeast _ _ _ _).append (kinds_whenAtLeast _ _ _ _)).append
    (kinds_whenAtLeast _ _ _ _)).append (kinds_whenAtLeast _ _ _ _)

/-- The only issue about held tasks is the one about all that are stuck. -/
theorem mem_ofTasks_stuck {staleAfter : Span} {now : Instant} :
    (i ∈ ofTasks tasks staleAfter now ∧ i.kind = .stuckClaims) ↔
      stuck tasks staleAfter now ≠ [] ∧ i = about .stuckClaims (stuck tasks staleAfter now)
        ("held without progress for over " ++ toString staleAfter.seconds ++ "s") := by
  simp only [ofTasks, repeated, List.mem_append, mem_whenAtLeast]
  constructor
  · rintro ⟨((⟨_, rfl⟩ | ⟨_, rfl⟩) | ⟨_, rfl⟩) | ⟨hlength, rfl⟩, hkind⟩
    · cases hkind
    · cases hkind
    · cases hkind
    · exact ⟨List.length_pos_iff.mp hlength, rfl⟩
  · rintro ⟨hstuck, rfl⟩
    exact ⟨.inr ⟨List.length_pos_iff.mpr hstuck, rfl⟩, rfl⟩

/-! ## The rank -/

/-- The issues fall strictly in severity, and there is at most one of each kind. -/
structure Ranked (issues : List Issue) : Prop where
  falling : issues.Pairwise fun i j => j.severity < i.severity
  once : (issues.map (·.kind)).Nodup

theorem rank_perm (issues : List Issue) : (rank issues).Perm issues := List.mergeSort_perm _ _

theorem pairwise_rank (issues : List Issue) :
    (rank issues).Pairwise fun i j => j.severity ≤ i.severity := by
  refine (List.pairwise_mergeSort ?_ ?_ issues).imp ?_
  · intro i j k
    simp only [Bool.or_eq_true, Bool.and_eq_true, decide_eq_true_eq]
    omega
  · intro i j
    simp only [Bool.or_eq_true, Bool.and_eq_true, decide_eq_true_eq]
    omega
  · intro i j h
    simp only [Bool.or_eq_true, Bool.and_eq_true, decide_eq_true_eq] at h
    omega

/-- Issues of different kinds are ranked by their kinds alone. -/
theorem ranked_rank (h : (issues.map (·.kind)).Nodup) : Ranked (rank issues) := by
  have honce : ((rank issues).map (·.kind)).Nodup :=
    ((rank_perm issues).map (·.kind)).nodup_iff.mpr h
  refine ⟨?_, honce⟩
  refine ((pairwise_rank issues).and (List.pairwise_map.mp honce)).imp fun ⟨hle, hne⟩ => ?_
  exact Nat.lt_of_le_of_ne hle fun heq => hne (IssueKind.severity_inj.mp heq).symm

end Issue

/-! ## The list of a monitor -/

namespace Monitor

variable {m : Monitor} {s : Store} {now : Instant} {issues : List Issue}

/-- All that a monitor finds, in no order of weight. -/
def found (m : Monitor) (tasks : List Task) (fatal : Option FatalIssue)
    (marker : Option PipelineMarker) (now : Instant) : List Issue :=
  (fatal.map Issue.ofFatal).toList ++
    (marker.map fun k => Issue.ofVersions k m.deployed).getD [] ++
    Issue.ofTasks tasks m.staleAfter now

theorem issues_eq_ok : m.issues s now = .ok issues ↔ ∃ tasks fatal marker,
    s.snapshot = .ok tasks ∧ s.fatalIssue = .ok fatal ∧ s.readMarker = .ok marker ∧
      issues = Issue.rank (m.found tasks fatal marker now) := by
  constructor
  · intro h
    obtain ⟨tasks, htasks, h⟩ := Task.bind_eq_ok.mp h
    obtain ⟨fatal, hfatal, h⟩ := Task.bind_eq_ok.mp h
    obtain ⟨marker, hmarker, h⟩ := Task.bind_eq_ok.mp h
    exact ⟨tasks, fatal, marker, htasks, hfatal, hmarker, (Except.ok.inj h).symm⟩
  · rintro ⟨tasks, fatal, marker, htasks, hfatal, hmarker, rfl⟩
    exact Task.bind_eq_ok.mpr ⟨tasks, htasks, Task.bind_eq_ok.mpr ⟨fatal, hfatal,
      Task.bind_eq_ok.mpr ⟨marker, hmarker, rfl⟩⟩⟩

theorem kinds_found (m : Monitor) (tasks : List Task) (fatal : Option FatalIssue)
    (marker : Option PipelineMarker) (now : Instant) :
    ((m.found tasks fatal marker now).map (·.kind)).Sublist IssueKind.all := by
  have hfatal : ((fatal.map Issue.ofFatal).toList.map (·.kind)).Sublist [.pipelineFatal] := by
    cases fatal with
    | none => exact List.nil_sublist _
    | some f => exact List.Sublist.refl _
  have hversions : (((marker.map fun k => Issue.ofVersions k m.deployed).getD []).map
      (·.kind)).Sublist [.stalePipelineVersion] := by
    cases marker with
    | none => exact List.nil_sublist _
    | some k => exact Issue.kinds_ofVersions k m.deployed
  rw [found, List.map_append, List.map_append]
  exact (hfatal.append hversions).append (Issue.kinds_ofTasks tasks m.staleAfter now)

/-- **The list of a monitor falls strictly in severity**, whatever the store holds. -/
theorem ranked_issues (h : m.issues s now = .ok issues) : Issue.Ranked issues := by
  obtain ⟨tasks, fatal, marker, _, _, _, rfl⟩ := issues_eq_ok.mp h
  exact Issue.ranked_rank ((m.kinds_found tasks fatal marker now).nodup (by decide))

/-- Only the tasks make an issue about held tasks. -/
theorem mem_issues_stuck {tasks : List Task} (h : m.issues s now = .ok issues)
    (htasks : s.snapshot = .ok tasks) {i : Issue} :
    (i ∈ issues ∧ i.kind = .stuckClaims) ↔ Issue.stuck tasks m.staleAfter now ≠ [] ∧
      i = .about .stuckClaims (Issue.stuck tasks m.staleAfter now)
        ("held without progress for over " ++ toString m.staleAfter.seconds ++ "s") := by
  obtain ⟨ts, fatal, marker, hts, _, _, rfl⟩ := issues_eq_ok.mp h
  cases hts.symm.trans htasks
  rw [← Issue.mem_ofTasks_stuck, (Issue.rank_perm _).mem_iff, found, List.mem_append,
    List.mem_append]
  constructor
  · rintro ⟨(hfatal | hversions) | hmem, hkind⟩
    · obtain ⟨f, -, rfl⟩ : ∃ f, fatal = some f ∧ Issue.ofFatal f = i := by simpa using hfatal
      cases hkind
    · cases marker with
      | none => cases hversions
      | some k =>
        have hone := (Issue.kinds_ofVersions k m.deployed).subset (List.mem_map_of_mem hversions)
        rw [hkind] at hone
        cases List.mem_singleton.mp hone
    · exact ⟨hmem, hkind⟩
  · exact fun ⟨hmem, hkind⟩ => ⟨.inr hmem, hkind⟩

end Monitor

end TaskPipeline
