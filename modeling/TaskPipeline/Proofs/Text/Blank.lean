import Mathlib.Data.List.TakeWhile
import TaskPipeline.Text.Blank
import TaskPipeline.Text.Fold
import TaskPipeline.Text.Word

/-!
# Trimming takes blanks only

A character that is not blank survives trimming, so a text is trimmed away exactly if it is blank,
and an excerpt of any other text says something. There are few blanks (`blanks`), and none of them
is a word character, a digit or the other case of anything.
-/

namespace TaskPipeline.Text

theorem mem_dropWhile_isBlank {c : Char} {cs : List Char} (h : c ∈ cs) (hc : isBlank c = false) :
    c ∈ cs.dropWhile isBlank := by
  induction cs with
  | nil => cases h
  | cons d ds ih =>
    rw [List.dropWhile_cons]
    split
    · next hd =>
      rcases List.mem_cons.mp h with rfl | h
      · rw [hc] at hd; cases hd
      · exact ih h
    · exact h

theorem mem_trimChars {c : Char} {cs : List Char} (h : c ∈ cs) (hc : isBlank c = false) :
    c ∈ trimChars cs := by
  have hl := List.mem_reverse.mpr (mem_dropWhile_isBlank h hc)
  exact List.mem_reverse.mpr (mem_dropWhile_isBlank hl hc)

theorem exists_not_isBlank_of_trimChars {cs : List Char} (h : trimChars cs ≠ []) :
    ∃ c ∈ cs, isBlank c = false := by
  by_cases hb : ∀ c ∈ cs, isBlank c = true
  · have hd : cs.dropWhile isBlank = [] := List.dropWhile_eq_nil_iff.mpr hb
    exact absurd (by rw [trimChars, hd]; rfl) h
  · obtain ⟨c, hc⟩ := Classical.not_forall.mp hb
    obtain ⟨hm, hc⟩ := Classical.not_imp.mp hc
    exact ⟨c, hm, by simpa using hc⟩

theorem trim_ne_empty_iff {s : String} : trim s ≠ "" ↔ ∃ c ∈ s.toList, isBlank c = false := by
  have he : trim s = "" ↔ trimChars s.toList = [] := by
    rw [trim, ← String.toList_inj, String.toList_ofList]; rfl
  rw [ne_eq, he]
  constructor
  · exact exists_not_isBlank_of_trimChars
  · rintro ⟨c, hm, hc⟩ hn
    have := mem_trimChars hm hc
    rw [hn] at this; cases this

/-- What is left of a trimmed text is not blank. -/
theorem exists_not_isBlank_trim {s : String} (h : trim s ≠ "") :
    ∃ c ∈ (trim s).toList, isBlank c = false := by
  obtain ⟨c, hm, hc⟩ := trim_ne_empty_iff.mp h
  exact ⟨c, by rw [trim, String.toList_ofList]; exact mem_trimChars hm hc, hc⟩

theorem excerpt_ne_empty {s : String} (h : ∃ c ∈ s.toList, isBlank c = false) : excerpt s ≠ "" := by
  obtain ⟨c, hm, hc⟩ := h
  have hne := List.ne_nil_of_mem (mem_trimChars hm hc)
  intro he
  have he := congrArg String.toList he
  unfold excerpt at he
  dsimp only at he
  split at he
  · rw [String.toList_ofList] at he; exact hne he
  · rw [String.toList_ofList] at he; cases he

/-- Trimming takes blanks at both ends and leaves what stands between them. -/
theorem exists_trimChars_append (cs : List Char) : ∃ x y, cs = x ++ trimChars cs ++ y ∧
    (∀ c ∈ x, isBlank c = true) ∧ ∀ c ∈ y, isBlank c = true := by
  let ds := cs.dropWhile isBlank
  have hx : cs = cs.takeWhile isBlank ++ ds := (List.takeWhile_append_dropWhile).symm
  have hy : ds = trimChars cs ++ (ds.reverse.takeWhile isBlank).reverse := by
    rw [trimChars, ← List.reverse_append, List.takeWhile_append_dropWhile, List.reverse_reverse]
  refine ⟨cs.takeWhile isBlank, (ds.reverse.takeWhile isBlank).reverse, ?_,
    fun c hc => List.mem_takeWhile_imp hc,
    fun c hc => List.mem_takeWhile_imp (List.mem_reverse.mp hc)⟩
  rw [List.append_assoc, ← hy]
  exact hx

/-! ## No blank is a letter or a digit -/

/-- Every blank by its code point. -/
def blanks : List Nat :=
  [9, 10, 11, 12, 13, 0x20, 0x85, 0xA0, 0x1680, 0x2000, 0x2001, 0x2002, 0x2003, 0x2004, 0x2005,
    0x2006, 0x2007, 0x2008, 0x2009, 0x200A, 0x2028, 0x2029, 0x202F, 0x205F, 0x3000]

theorem toNat_mem_blanks {c : Char} (h : isBlank c = true) : c.toNat ∈ blanks := by
  simp only [isBlank, Bool.or_eq_true, Bool.and_eq_true, decide_eq_true_eq, beq_iff_eq] at h
  simp only [blanks, List.mem_cons, List.not_mem_nil]
  omega

/-- What holds of every code point of the list holds of every blank. -/
theorem forall_isBlank {P : Char → Prop} (h : ∀ n ∈ blanks, P (Char.ofNat n)) {c : Char}
    (hc : isBlank c = true) : P c :=
  Char.ofNat_toNat c ▸ h _ (toNat_mem_blanks hc)

theorem isWord_of_isBlank {c : Char} (h : isBlank c = true) : isWord c = false :=
  forall_isBlank (P := fun c => isWord c = false) (by decide +kernel) h

theorem isDecimalDigit_of_isBlank {c : Char} (h : isBlank c = true) : isDecimalDigit c = false :=
  forall_isBlank (P := fun c => isDecimalDigit c = false) (by decide +kernel) h

theorem fold_of_isBlank {c : Char} (h : isBlank c = true) : fold c = c :=
  forall_isBlank (P := fun c => fold c = c) (by decide +kernel) h

end TaskPipeline.Text
