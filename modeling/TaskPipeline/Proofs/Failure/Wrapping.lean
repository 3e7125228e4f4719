import TaskPipeline.Executor.Command
import TaskPipeline.Executor.Gateway
import TaskPipeline.Proofs.Failure.Lines
import TaskPipeline.Proofs.Pattern.Inert
import TaskPipeline.Retry

/-!
# What is added to a failure text does not change its category

A failure text comes to the policy behind the label of the gateway, or, if a program wrote it,
below the exit status and behind the name of its stream. No pattern starts in these labels
(`labels_inert`), none is found in an exit status (`classify_exitText`), and what stands on lines
of its own is judged by itself. So the category on record is that of the text alone
(`wrapping_keeps_category`).
-/

namespace TaskPipeline

open Failure Pattern Text

namespace Failure

/-! ## Labels -/

/-- No pattern starts in the label, and no word of it goes on behind it. -/
structure Inert (label : String) : Prop where
  passed : ∀ q ∈ patterns, q.2.passesOver none label.toList = true
  ends : label.toList.getLast?.any isWord = false

instance (label : String) : Decidable (Inert label) :=
  decidable_of_iff ((∀ q ∈ patterns, q.2.passesOver none label.toList = true) ∧
    label.toList.getLast?.any isWord = false) ⟨fun ⟨a, b⟩ => ⟨a, b⟩, fun ⟨a, b⟩ => ⟨a, b⟩⟩

/-- The labels that come before a failure text. -/
def labels : List String := [
  "executor unreachable: ",
  "executor panicked: ",
  "stderr" ++ ": ",
  "stdout" ++ ": ",
  "exit Some("]

theorem labels_inert : ∀ label ∈ labels, Inert label := by decide +kernel

theorem classify_label {label : String} (h : label ∈ labels) (text : String) :
    classify (label ++ text) = classify text := by
  have hi := labels_inert label h
  rw [classify_eq_firstFound, classify_eq_firstFound]
  exact firstFound_congr fun q hq => foundIn_append (hi.passed q hq) hi.ends

theorem classify_empty : classify "" = .generic := by decide +kernel

theorem foremost_singleton_classify (text : String) : foremost [classify text] = classify text := by
  have h := classify_of_lines [text]
  rw [String.intercalate_singleton] at h
  exact h.symm

/-- A labelled part on a line of its own is judged by itself, and a blank one says nothing. -/
theorem classify_errorPart {label : String} (h : label ++ ": " ∈ labels) (front text : String) :
    classify (front ++ errorPart label text) = foremost [classify front, classify text] := by
  rw [errorPart, ← classify_of_trim text]
  split
  · next hb =>
    rw [String.isEmpty_iff.mp hb, String.append_empty, classify_empty]
    have hc : ∀ c, foremost [c, .generic] = foremost [c] := fun c => by cases c <;> rfl
    rw [hc, foremost_singleton_classify]
  · have hs : front ++ ("\n" ++ label ++ ": " ++ trim text) =
        "\n".intercalate [front, label ++ ": " ++ trim text] := by
      simp only [String.intercalate_cons_cons, String.intercalate_singleton, String.append_assoc]
    rw [hs, classify_of_lines]
    exact congrArg (foremost [classify front, ·]) (classify_label h _)

/-! ## Exit statuses -/

/-- The characters of exit codes and of what closes them. -/
def codeLetters : List Char := ['0', '1', '2', '3', '4', '5', '6', '7', '8', '9', ')']

theorem mem_codeLetters {n : Nat} : ∀ c ∈ Nat.toDigits 10 n ++ [')'], c ∈ codeLetters := by
  intro c hc
  rcases List.mem_append.mp hc with hc | hc
  · have hd := Nat.isDigit_of_mem_toDigits (by decide) (by decide) hc
    obtain ⟨hl, hu⟩ : 48 ≤ c.toNat ∧ c.toNat ≤ 57 := by
      simpa [Char.isDigit, UInt32.le_iff_toNat_le] using hd
    obtain ⟨i, hi⟩ := Nat.exists_eq_add_of_le hl
    have hdigits : ∀ i < 10, Char.ofNat (48 + i) ∈ codeLetters := by decide
    rw [← Char.ofNat_toNat c, hi]
    exact hdigits i (by omega)
  · rw [List.mem_singleton.mp hc]
    decide

/-- With digits only the statuses of a server can be spelled, and no exit code is one of these. -/
theorem codes_unmatched : ∀ q ∈ patterns, ∀ r ∈ q.2.within codeLetters, ∀ i < 16, ∀ j < 16,
    r.foundFrom none (Nat.toDigits 10 (16 * i + j) ++ [')']) = false := by decide +kernel

theorem foundIn_code {n : Nat} (hn : n ≤ 255) {q : FailureCategory × Pattern}
    (hq : q ∈ patterns) : q.2.foundIn (toString n ++ ")") = false := by
  have ht : (toString n ++ ")").toList = Nat.toDigits 10 n ++ [')'] := by simp
  by_contra hf
  rw [Bool.not_eq_false, foundIn_iff_occurs, ht] at hf
  obtain ⟨r, hr, h⟩ := hf.within mem_codeLetters
  have hf : r.foundFrom none (Nat.toDigits 10 n ++ [')']) = true := foundFrom_iff (u := []).mpr h
  have hn := codes_unmatched q hq r hr (n / 16) (by omega) (n % 16) (by omega)
  rw [Nat.div_add_mod, hf] at hn
  cases hn

/-- An exit status says nothing about a failure. -/
theorem classify_exitText {exit : Exit} (h : ∀ n, exit = .code n → n ≤ 255) :
    classify (exitText exit) = .generic := by
  cases exit with
  | signal n =>
    have hnone : classify "exit None" = .generic := by decide +kernel
    exact hnone
  | code n =>
    calc classify (exitText (.code n))
      _ = classify ("exit Some(" ++ (toString n ++ ")")) := by rw [exitText, String.append_assoc]
      _ = classify (toString n ++ ")") := classify_label (by decide) _
      _ = firstFound (fun _ => false) patterns := by
        rw [classify_eq_firstFound]
        exact firstFound_congr fun q hq => foundIn_code (h n rfl) hq
      _ = .generic := rfl

/-- The error of a program that failed is judged by what it wrote. -/
theorem classify_ran {exit : Exit} (h : ∀ n, exit = .code n → n ≤ 255) (err out : String) :
    classify (exitText exit ++ errorPart "stderr" err ++ errorPart "stdout" out) =
      foremost [classify err, classify out] := by
  rw [classify_errorPart (by decide), classify_errorPart (by decide), classify_exitText h]
  cases classify err <;> cases classify out <;> rfl

end Failure

/-! ## From the executor to the record -/

namespace RetryPolicy

variable {o : Outcome}

theorem reflection_failed (p : RetryPolicy) (t : Task) (now : Instant) (h : o.success = false) :
    (p.decide t o now).reflection? = some (reflectionOn t o now) := by
  have ha : o.isAmbiguous = false := by rw [Outcome.isAmbiguous, h, Bool.false_and]
  unfold decide
  rw [ha, h, if_neg Bool.false_ne_true, if_neg Bool.false_ne_true]
  dsimp only
  split
  · rfl
  split
  · split <;> rfl
  · rfl

theorem categoryOf_error (ht : o.timedOut = false) {error : String} (he : o.error = some error)
    (hb : ∃ c ∈ error.toList, isBlank c = false) : categoryOf o = classify error := by
  have hf : o.failureText = trim error := by
    rw [Outcome.failureText, he]
    exact if_pos (trim_ne_empty_iff.mpr hb)
  rw [categoryOf, ht, if_neg Bool.false_ne_true, hf, classify_of_trim]

end RetryPolicy

namespace Gateway

/-- The category on record for an attempt that is over: what the policy sees in what the gateway
makes of it. -/
def recorded (g : Gateway) (p : RetryPolicy) (a : Attempt) (now : Instant) :
    Option FailureCategory :=
  (p.decide a.task (g.finish a).1 now).reflection?.map (·.category)

variable {g : Gateway} {a : Attempt} {e : Executor} {t : Nat} {p : RetryPolicy} {now : Instant}

theorem finish_in_time (he : g.registry.executor? a.task.taskType = some e)
    (ht : a.endsInTime = some t) :
    (g.finish a).1 = (e.ending a.launch e.ended a.task).outcome (t - a.startedAt) := by
  rw [finish, he, ht]

/-- A failure is on record under the category of its error. -/
theorem recorded_failure {o : Outcome} (hf : (g.finish a).1 = o) (hs : o.success = false)
    (ht : o.timedOut = false) {error : String} (he : o.error = some error)
    (hb : ∃ c ∈ error.toList, isBlank c = false) :
    g.recorded p a now = some (classify error) := by
  rw [recorded, hf, p.reflection_failed a.task now hs]
  exact congrArg some (RetryPolicy.categoryOf_error ht he hb)

theorem recorded_labelled {label text : String} {d : Span}
    (hf : (g.finish a).1 = .failed (label ++ text) d) (hl : label ∈ labels)
    (hb : ∃ c ∈ label.toList, isBlank c = false) :
    g.recorded p a now = some (classify text) := by
  rw [← classify_label hl text]
  obtain ⟨c, hc, hb⟩ := hb
  refine recorded_failure hf rfl rfl rfl ⟨c, ?_, hb⟩
  rw [String.toList_append]
  exact List.mem_append_left _ hc

theorem recorded_ran {r : Ran} {d : Span} (hf : (g.finish a).1 = .ofReport (.ofRan r) d)
    (hx : r.exit ≠ .code 0) (hn : ∀ n, r.exit = .code n → n ≤ 255) :
    g.recorded p a now = some (foremost
      [classify (outputTail r.err), classify (outputTail r.out)]) := by
  have hr : Report.ofRan r = ⟨false, outputTail r.out, some (exitText r.exit ++
      errorPart "stderr" (outputTail r.err) ++ errorPart "stdout" (outputTail r.out))⟩ := if_neg hx
  rw [hr] at hf
  rw [← classify_ran hn]
  refine recorded_failure hf rfl rfl rfl ⟨'e', ?_, by decide⟩
  have he : 'e' ∈ (exitText r.exit).toList := by
    cases r.exit <;> simp [exitText]
  rw [String.append_assoc, String.toList_append]
  exact List.mem_append_left _ he

/-- **Wrapping a failure does not change its category.** For an attempt that ends in time, an
executor that cannot be reached or breaks down is on record under the category of what it says, and
a program that fails under the foremost of the categories of its two streams, whatever its exit. -/
theorem wrapping_keeps_category (he : g.registry.executor? a.task.taskType = some e)
    (ht : a.endsInTime = some t) (p : RetryPolicy) (now : Instant) :
    (∀ causes, e.ending a.launch e.ended a.task = .unreachable causes →
      g.recorded p a now = some (classify (": ".intercalate causes))) ∧
    (∀ message, e.ending a.launch e.ended a.task = .panicked (some message) →
      g.recorded p a now = some (classify message)) ∧
    ∀ r, e.ending a.launch e.ended a.task = .report (.ofRan r) → r.exit ≠ .code 0 →
      (∀ n, r.exit = .code n → n ≤ 255) →
      r.err.length ≤ outputLimit → r.out.length ≤ outputLimit →
      g.recorded p a now = some (foremost
        [classify (String.ofList (Utf8.decode r.err)),
          classify (String.ofList (Utf8.decode r.out))]) := by
  have hf := finish_in_time he ht
  refine ⟨fun causes hc => ?_, fun message hm => ?_, fun r hr hx hn hl ho => ?_⟩
  · rw [hc] at hf
    exact recorded_labelled hf (by decide) ⟨'e', by decide, by decide⟩
  · rw [hm] at hf
    exact recorded_labelled hf (by decide) ⟨'e', by decide, by decide⟩
  · rw [hr] at hf
    rw [← outputTail_of_le hl, ← outputTail_of_le ho]
    exact recorded_ran hf hx hn

/-- An executor that cannot be reached at first, then breaks down, and then runs a program that
fails with an exit code of its own. -/
def troubled : Executor :=
  .ofLines "agent" ⟨40, fun _ => .unreachable ["no launch", "connection refused"]⟩ [
    ⟨40, fun _ => .panicked (some "usage limit reached")⟩,
    ⟨40, fun _ => .report (.ofRan {
      exit := .code 50
      exitsAt := some 40
      closesAt := some 40
      out := "2 tests failed".toUTF8.data.toList
      err := "502".toUTF8.data.toList })⟩]

def troubledGateway : Gateway where
  registry := .register {} .impl troubled
  defaultLimit := 1000

def troubledAttempt (launch : Nat) : Attempt where
  task := .create "a" ⟨.impl, "build", none, none⟩ 3 0
  launch := launch
  startedAt := 10
  endsAt := some 50
  limit := 1000

theorem wrapping_keeps_category_troubled :
    troubledGateway.recorded (.ofSettings {}) (troubledAttempt 0) 5 = some .flakyOrNetwork ∧
    troubledGateway.recorded (.ofSettings {}) (troubledAttempt 1) 5 = some .quotaExceeded ∧
    troubledGateway.recorded (.ofSettings {}) (troubledAttempt 2) 5 = some .testOrLintFailure := by
  have h (n : Nat) := wrapping_keeps_category (g := troubledGateway) (a := troubledAttempt n)
    (e := troubled) (t := 50) rfl rfl (.ofSettings {}) 5
  have hcode : ∀ n, Exit.code 50 = .code n → n ≤ 255 := fun n h => by cases h; decide
  exact ⟨((h 0).1 _ rfl).trans (by decide +kernel), ((h 1).2.1 _ rfl).trans (by decide +kernel),
    ((h 2).2.2 _ rfl (by decide) hcode (by decide) (by decide)).trans (by decide +kernel)⟩

end Gateway

end TaskPipeline
