import TaskPipeline.Failure.Classify
import TaskPipeline.Proofs.Pattern.Lines

/-!
# A log is classified line by line

Each of the six patterns stays within a line (`patterns_lined`). So a pattern is found in a log
exactly if it is found in one of its lines, and the category of the log is the foremost of the
categories of its lines (`classify_by_lines`).
-/

namespace TaskPipeline.Failure

open Pattern Text

/-- The categories that a text can have, those that decide over the others first. -/
def precedence : List FailureCategory := [
  .quotaExceeded,
  .paidProviderBlocked,
  .envOrSecrets,
  .testOrLintFailure,
  .rebaseConflict,
  .flakyOrNetwork,
  .generic]

/-- The category among several that comes first in the order of precedence. -/
def foremost (cs : List FailureCategory) : FailureCategory :=
  (precedence.find? (cs.contains ·)).getD .generic

theorem patterns_lined : ∀ q ∈ patterns, q.2.Lined := by decide +kernel

theorem patterns_categories :
    patterns.map (·.1) ++ [FailureCategory.generic] = precedence := rfl

/-! ## A pattern in a log -/

section

variable {p : Pattern}

/-- A pattern is found in a log exactly if it is found in one of its lines. -/
theorem foundIn_lines (hp : p.Lined) (texts : List String) :
    p.foundIn ("\n".intercalate texts) = texts.any p.foundIn := by
  induction texts with
  | nil =>
    rw [String.intercalate_nil, List.any_nil, Bool.eq_false_iff]
    intro h
    obtain ⟨u, m, v, hs, h⟩ := foundIn_iff_occurs.mp h
    obtain ⟨-, rfl, -⟩ : u = [] ∧ m = [] ∧ v = [] := by simpa using hs.symm
    have hn := h.nullable
    rw [hp.not_nullable] at hn
    cases hn
  | cons t ts ih =>
    cases ts with
    | nil => rw [String.intercalate_singleton, List.any_cons, List.any_nil, Bool.or_false]
    | cons u ts =>
      have hs : ("\n".intercalate (t :: u :: ts)).toList =
          t.toList ++ '\n' :: ("\n".intercalate (u :: ts)).toList := by
        simp only [String.intercalate_cons_cons, String.toList_append, List.append_assoc]
        rfl
      rw [List.any_cons, ← ih, Bool.eq_iff_iff, Bool.or_eq_true]
      simp only [foundIn_iff_occurs]
      rw [hs]
      exact occurs_append_newline hp.not_reads

theorem foundIn_trim (hp : p.Lined) (text : String) : p.foundIn (trim text) = p.foundIn text := by
  rw [Bool.eq_iff_iff, foundIn_iff_occurs, foundIn_iff_occurs, trim, String.toList_ofList]
  exact hp.occurs_trimChars

end

/-! ## The first pattern found -/

/-- The category of the first pattern that is found. -/
def firstFound (found : Pattern → Bool) : List (FailureCategory × Pattern) → FailureCategory
  | [] => .generic
  | q :: ps => if found q.2 then q.1 else firstFound found ps

section

variable {ps : List (FailureCategory × Pattern)} {found found' : Pattern → Bool}

theorem firstFound_eq_find : firstFound found ps =
    ((ps.find? fun q => found q.2).map (·.1)).getD .generic := by
  induction ps with
  | nil => rfl
  | cons q ps ih =>
    rw [firstFound, List.find?_cons, ih]
    cases found q.2 <;> rfl

theorem classify_eq_firstFound (text : String) :
    classify text = firstFound (·.foundIn text) patterns := by
  rw [firstFound_eq_find]
  rfl

theorem firstFound_mem : firstFound found ps ∈ ps.map (·.1) ++ [FailureCategory.generic] := by
  induction ps with
  | nil => exact List.mem_singleton.mpr rfl
  | cons q ps ih =>
    rw [firstFound]
    split
    · exact List.mem_cons_self
    · exact List.mem_cons_of_mem _ ih

theorem firstFound_congr (h : ∀ q ∈ ps, found q.2 = found' q.2) :
    firstFound found ps = firstFound found' ps := by
  induction ps with
  | nil => rfl
  | cons q ps ih =>
    obtain ⟨hq, hps⟩ := List.forall_mem_cons.mp h
    rw [firstFound, firstFound, hq, ih hps]

/-- What is found first in any of several texts is the foremost of what is found first in each. -/
theorem firstFound_any {α : Type} (f : Pattern → α → Bool) (texts : List α)
    (hd : (ps.map (·.1) ++ [FailureCategory.generic]).Nodup) :
    firstFound (fun p => texts.any (f p)) ps =
      ((ps.map (·.1) ++ [FailureCategory.generic]).find?
        ((texts.map fun t => firstFound (f · t) ps).contains ·)).getD .generic := by
  induction ps with
  | nil => rw [List.map_nil, List.nil_append, List.find?_singleton]; split <;> rfl
  | cons q ps ih =>
    rw [List.map_cons, List.cons_append, List.nodup_cons] at hd
    rw [List.map_cons, List.cons_append, firstFound]
    cases hq : texts.any (f q.2) with
    | true =>
      obtain ⟨t, ht, hf⟩ := List.any_eq_true.mp hq
      have hm : q.1 ∈ texts.map fun t => firstFound (f · t) (q :: ps) :=
        List.mem_map.mpr ⟨t, ht, by rw [firstFound, hf]; rfl⟩
      rw [List.find?_cons_of_pos (List.contains_iff_mem.mpr hm)]
      rfl
    | false =>
      have hall : (texts.map fun t => firstFound (f · t) (q :: ps)) =
          texts.map fun t => firstFound (f · t) ps :=
        List.map_congr_left fun t ht => by
          rw [firstFound, if_neg (List.any_eq_false.mp hq t ht)]
      have hm : q.1 ∉ texts.map fun t => firstFound (f · t) ps := by
        intro hm
        obtain ⟨t, -, ht⟩ := List.mem_map.mp hm
        exact hd.1 (ht ▸ firstFound_mem)
      rw [hall, List.find?_cons_of_neg (by rwa [List.contains_iff_mem]), ← ih hd.2]
      rfl

end

/-! ## Categories -/

theorem classify_of_lines (texts : List String) :
    classify ("\n".intercalate texts) = foremost (texts.map classify) := by
  have hmap : texts.map classify = texts.map fun t => firstFound (·.foundIn t) patterns :=
    List.map_congr_left fun t _ => classify_eq_firstFound t
  calc classify ("\n".intercalate texts)
    _ = firstFound (·.foundIn ("\n".intercalate texts)) patterns := classify_eq_firstFound _
    _ = firstFound (fun p => texts.any p.foundIn) patterns :=
      firstFound_congr fun q hq => foundIn_lines (patterns_lined q hq) texts
    _ = foremost (texts.map fun t => firstFound (·.foundIn t) patterns) := by
      rw [firstFound_any _ _ (by rw [patterns_categories]; decide), patterns_categories, foremost]
    _ = foremost (texts.map classify) := by rw [hmap]

theorem classify_of_trim (text : String) : classify (trim text) = classify text := by
  rw [classify_eq_firstFound, classify_eq_firstFound]
  exact firstFound_congr fun q hq => foundIn_trim (patterns_lined q hq) text

/-- Of several categories only their set counts. -/
theorem foremost_congr {cs ds : List FailureCategory} (h : ∀ c, c ∈ cs ↔ c ∈ ds) :
    foremost cs = foremost ds := by
  have hc : (cs.contains ·) = (ds.contains ·) := by
    funext c
    rw [Bool.eq_iff_iff, List.contains_iff_mem, List.contains_iff_mem, h]
  rw [foremost, foremost, hc]

/-- **Classification is decided line by line.** The category of a log is the foremost of the
categories of its lines, and blanks around a text do not count. So neither the order of the lines
nor their number counts, and no line needs to be trimmed. -/
theorem classify_by_lines :
    (∀ texts, classify ("\n".intercalate texts) = foremost (texts.map classify)) ∧
    (∀ text, classify (trim text) = classify text) ∧
    (∀ texts texts' : List String, (∀ t, t ∈ texts ↔ t ∈ texts') →
      classify ("\n".intercalate texts) = classify ("\n".intercalate texts')) ∧
    ∀ texts, classify ("\n".intercalate (texts.map trim)) = classify ("\n".intercalate texts) := by
  refine ⟨classify_of_lines, classify_of_trim, fun texts texts' h => ?_, fun texts => ?_⟩
  · rw [classify_of_lines, classify_of_lines]
    exact foremost_congr fun c => by simp only [List.mem_map, h]
  · simp only [classify_of_lines, List.map_map, Function.comp_def, classify_of_trim]

end TaskPipeline.Failure
