import TaskPipeline.Proofs.Pattern.Covers
import TaskPipeline.Proofs.Text.Blank

/-!
# Patterns that stay within a line

Four checks on a pattern, each computed from its constructors: what it can read (`reads`), whether
it can cover nothing (`nullable`), and whether what it covers starts and ends with a character
that is no blank (`opensSolid`, `closesSolid`). A pattern that passes them is `Lined`: a line
break splits a text for it (`Lined.occurs_lines`), and blanks around a text are nothing to it
(`Lined.occurs_trimChars`).
-/

namespace TaskPipeline

open Text

namespace Pattern

/-! ## The checks -/

/-- The character lies in a set of the pattern. -/
def reads (c : Char) : Pattern → Bool
  | empty | wordEdge => false
  | one set | many set => set.has c
  | seq p q | alt p q => p.reads c || q.reads c

/-- The pattern may cover the empty stretch. -/
def nullable : Pattern → Bool
  | empty | wordEdge => true
  | one _ | many _ => false
  | seq p q => p.nullable && q.nullable
  | alt p q => p.nullable || q.nullable

end Pattern

/-- No blank lies in the set. -/
def CharSet.solid : CharSet → Bool
  | letter a => !isBlank (fold a)
  | exactly a => !isBlank a
  | among cs => cs.all fun c => !isBlank c
  | digit => true
  | nonBlank => true

namespace Pattern

/-- A stretch of the pattern starts with no blank. -/
def opensSolid : Pattern → Bool
  | empty | wordEdge => true
  | one set | many set => set.solid
  | seq p q => p.opensSolid && (!p.nullable || q.opensSolid)
  | alt p q => p.opensSolid && q.opensSolid

/-- A stretch of the pattern ends with no blank. -/
def closesSolid : Pattern → Bool
  | empty | wordEdge => true
  | one set | many set => set.solid
  | seq p q => q.closesSolid && (!q.nullable || p.closesSolid)
  | alt p q => p.closesSolid && q.closesSolid

/-- The pattern stays within a line and covers no blank at either end. -/
structure Lined (p : Pattern) : Prop where
  not_reads : p.reads '\n' = false
  not_nullable : p.nullable = false
  opens : p.opensSolid = true
  closes : p.closesSolid = true

instance (p : Pattern) : Decidable p.Lined :=
  decidable_of_iff (p.reads '\n' = false ∧ p.nullable = false ∧ p.opensSolid = true ∧
    p.closesSolid = true) ⟨fun ⟨a, b, c, d⟩ => ⟨a, b, c, d⟩, fun ⟨a, b, c, d⟩ => ⟨a, b, c, d⟩⟩

end Pattern

theorem CharSet.not_isBlank_of_has {set : CharSet} {c : Char} (hs : set.solid = true)
    (hc : set.has c = true) : isBlank c = false := by
  by_contra hb
  rw [Bool.not_eq_false] at hb
  cases set with
  | letter a =>
    rw [has, sameLetter, fold_of_isBlank hb, beq_iff_eq] at hc
    simp [solid, hc, hb] at hs
  | exactly a =>
    rw [has, beq_iff_eq] at hc
    simp [solid, hc, hb] at hs
  | among cs =>
    have hm : c ∈ cs := by simpa [has] using hc
    simpa [hb] using List.all_eq_true.mp hs c hm
  | digit => rw [has, isDecimalDigit_of_isBlank hb] at hc; cases hc
  | nonBlank => simp [has, hb] at hc

namespace Pattern

/-! ## What the checks say of a covered stretch -/

variable {p : Pattern} {u m v : List Char} {c : Char}

theorem Covers.reads (h : p.Covers u m v) (hc : c ∈ m) : p.reads c = true := by
  induction p generalizing u m v with
  | empty => rw [covers_empty.mp h] at hc; cases hc
  | one set =>
    obtain ⟨d, rfl, hd⟩ := covers_one.mp h
    rwa [List.mem_singleton.mp hc]
  | many set => exact (covers_many.mp h).2 c hc
  | seq p q ihp ihq =>
    obtain ⟨m₁, m₂, rfl, hp, hq⟩ := covers_seq.mp h
    rw [Pattern.reads, Bool.or_eq_true]
    rcases List.mem_append.mp hc with hc | hc
    · exact .inl (ihp hp hc)
    · exact .inr (ihq hq hc)
  | alt p q ihp ihq =>
    rw [Pattern.reads, Bool.or_eq_true]
    exact (covers_alt.mp h).imp (ihp · hc) (ihq · hc)
  | wordEdge => rw [(covers_wordEdge.mp h).1] at hc; cases hc

theorem Covers.nullable (h : p.Covers u [] v) : p.nullable = true := by
  induction p generalizing u v with
  | empty | wordEdge => rfl
  | one set =>
    obtain ⟨c, hc, -⟩ := covers_one.mp h
    cases hc
  | many set => exact absurd rfl (covers_many.mp h).1
  | seq p q ihp ihq =>
    obtain ⟨m₁, m₂, hm, hp, hq⟩ := covers_seq.mp h
    obtain ⟨rfl, rfl⟩ := List.append_eq_nil_iff.mp hm.symm
    rw [Pattern.nullable, ihp hp, ihq hq]; rfl
  | alt p q ihp ihq =>
    rw [Pattern.nullable, Bool.or_eq_true]
    exact (covers_alt.mp h).imp ihp ihq

/-- The first character of a stretch comes from the second part of a pair only where the first
part covers nothing. -/
theorem Covers.head_solid (h : p.Covers u m v) (hs : p.opensSolid = true) (hc : c ∈ m.head?) :
    isBlank c = false := by
  induction p generalizing u m v with
  | empty => rw [covers_empty.mp h] at hc; cases hc
  | one set =>
    obtain ⟨d, rfl, hd⟩ := covers_one.mp h
    cases hc
    exact CharSet.not_isBlank_of_has hs hd
  | many set =>
    exact CharSet.not_isBlank_of_has hs ((covers_many.mp h).2 c (List.mem_of_mem_head? hc))
  | seq p q ihp ihq =>
    obtain ⟨m₁, m₂, rfl, hp, hq⟩ := covers_seq.mp h
    rw [opensSolid, Bool.and_eq_true] at hs
    cases m₁ with
    | nil =>
      rw [hp.nullable, Bool.not_true, Bool.false_or] at hs
      exact ihq hq hs.2 hc
    | cons d m₁ => exact ihp hp hs.1 hc
  | alt p q ihp ihq =>
    rw [opensSolid, Bool.and_eq_true] at hs
    rcases covers_alt.mp h with h | h
    · exact ihp h hs.1 hc
    · exact ihq h hs.2 hc
  | wordEdge => rw [(covers_wordEdge.mp h).1] at hc; cases hc

theorem Covers.last_solid (h : p.Covers u m v) (hs : p.closesSolid = true) (hc : c ∈ m.getLast?) :
    isBlank c = false := by
  induction p generalizing u m v with
  | empty => rw [covers_empty.mp h] at hc; cases hc
  | one set =>
    obtain ⟨d, rfl, hd⟩ := covers_one.mp h
    cases hc
    exact CharSet.not_isBlank_of_has hs hd
  | many set =>
    exact CharSet.not_isBlank_of_has hs ((covers_many.mp h).2 c (List.mem_of_mem_getLast? hc))
  | seq p q ihp ihq =>
    obtain ⟨m₁, m₂, rfl, hp, hq⟩ := covers_seq.mp h
    rw [closesSolid, Bool.and_eq_true] at hs
    rw [List.getLast?_append] at hc
    cases m₂ with
    | nil =>
      rw [hq.nullable, Bool.not_true, Bool.false_or] at hs
      exact ihp hp hs.2 hc
    | cons d m₂ =>
      rw [List.getLast?_cons, Option.some_or, ← List.getLast?_cons] at hc
      exact ihq hq hs.1 hc
  | alt p q ihp ihq =>
    rw [closesSolid, Bool.and_eq_true] at hs
    rcases covers_alt.mp h with h | h
    · exact ihp h hs.1 hc
    · exact ihq h hs.2 hc
  | wordEdge => rw [(covers_wordEdge.mp h).1] at hc; cases hc

/-! ## Line breaks and blanks -/

/-- A stretch within two lines stands in one of them. -/
theorem occurs_append_newline {p : Pattern} (hp : p.reads '\n' = false) {a b : List Char} :
    p.Occurs (a ++ '\n' :: b) ↔ p.Occurs a ∨ p.Occurs b := by
  constructor
  · rintro ⟨u, m, v, hs, h⟩
    have hm : '\n' ∉ m := fun hn => by have := h.reads hn; rw [hp] at this; cases this
    rcases List.append_eq_append_iff.mp hs.symm with ⟨t, ha, hv⟩ | ⟨t, hu, ht⟩
    · -- the stretch ends before the line break
      refine .inl ⟨u, m, t, ha, h.of_same_edges rfl ?_⟩
      rw [hv]
      cases t <;> rfl
    · cases t with
      | nil =>
        rw [List.append_nil] at hu
        refine .inl ⟨u, m, [], by rw [hu, List.append_nil], h.of_same_edges rfl ?_⟩
        obtain rfl : '\n' :: b = v := ht
        rfl
      | cons d t =>
        obtain ⟨rfl, hb⟩ := List.cons.inj ht
        rcases List.append_eq_append_iff.mp hu with ⟨t', -, hm'⟩ | ⟨w, ha, hw⟩
        · exact absurd (by rw [hm']; simp) hm
        · cases w with
          | nil => exact absurd (by rw [← List.nil_append m, ← hw]; exact List.mem_cons_self) hm
          | cons d w =>
            -- the stretch starts after the line break
            obtain ⟨rfl, rfl⟩ := List.cons.inj hw
            refine .inr ⟨w, m, v, hb, h.of_same_edges ?_ rfl⟩
            rw [ha, List.getLast?_append, List.getLast?_cons]
            cases w.getLast? <;> rfl
  · rintro (h | h)
    · simpa using h.surround (x := []) (y := '\n' :: b) rfl rfl
    · simpa using h.surround (x := a ++ ['\n']) (y := []) (by rw [List.getLast?_concat]; rfl) rfl

theorem any_isWord_of_blanks {o : Option Char} (h : ∀ c ∈ o, isBlank c = true) :
    o.any isWord = false := by
  cases o with
  | none => rfl
  | some c => exact isWord_of_isBlank (h c rfl)

/-- Blanks before a text are nothing to a pattern whose stretches start with no blank. -/
theorem occurs_blanks_append {p : Pattern} (hn : p.nullable = false) (hs : p.opensSolid = true)
    {x cs : List Char} (hx : ∀ c ∈ x, isBlank c = true) : p.Occurs (x ++ cs) ↔ p.Occurs cs := by
  have hw : x.getLast?.any isWord = false :=
    any_isWord_of_blanks fun c hc => hx c (List.mem_of_mem_getLast? hc)
  constructor
  · rintro ⟨u, m, v, hcs, h⟩
    rw [List.append_assoc] at hcs
    rcases List.append_eq_append_iff.mp hcs with ⟨w, rfl, hw'⟩ | ⟨w, rfl, hm⟩
    · exact ⟨w, m, v, by rw [hw', List.append_assoc],
        h.of_same_edges (wordBefore_append (v := []) hw).symm rfl⟩
    · cases w with
      | nil =>
        refine ⟨[], m, v, hm.symm, h.of_same_edges ?_ rfl⟩
        rw [List.append_nil] at hw
        exact hw.symm
      | cons c w =>
        cases m with
        | nil => rw [h.nullable] at hn; cases hn
        | cons d m =>
          obtain ⟨rfl, -⟩ := List.cons.inj hm
          have hb := hx d (List.mem_append_right _ List.mem_cons_self)
          rw [h.head_solid hs rfl] at hb
          cases hb
  · intro h
    simpa using h.surround (y := []) hw rfl

theorem occurs_append_blanks {p : Pattern} (hn : p.nullable = false) (hs : p.closesSolid = true)
    {cs y : List Char} (hy : ∀ c ∈ y, isBlank c = true) : p.Occurs (cs ++ y) ↔ p.Occurs cs := by
  have hw : y.head?.any isWord = false :=
    any_isWord_of_blanks fun c hc => hy c (List.mem_of_mem_head? hc)
  constructor
  · rintro ⟨u, m, v, hcs, h⟩
    rcases List.append_eq_append_iff.mp hcs with ⟨w, hu, hy'⟩ | ⟨w, hcs', rfl⟩
    · cases w with
      | nil =>
        rw [List.append_nil] at hu
        refine ⟨u, m, [], by rw [hu, List.append_nil], h.of_same_edges rfl ?_⟩
        obtain rfl : y = v := hy'
        exact hw.symm
      | cons c w =>
        rcases List.eq_nil_or_concat m with rfl | ⟨m, d, rfl⟩
        · rw [h.nullable] at hn; cases hn
        · have hl := congrArg List.getLast? hu
          rw [List.concat_eq_append, ← List.append_assoc, List.getLast?_concat, List.getLast?_append,
            List.getLast?_cons, Option.some_or, ← List.getLast?_cons] at hl
          have hd : d ∈ y := hy' ▸ List.mem_append_left _ (List.mem_of_getLast? hl.symm)
          have hb := hy d hd
          rw [h.last_solid hs (by rw [List.concat_eq_append]; exact List.getLast?_concat)] at hb
          cases hb
    · refine ⟨u, m, w, hcs', h.of_same_edges rfl ?_⟩
      simpa using (wordAfter_append (v := []) (w := w) hw).symm
  · intro h
    simpa using h.surround (x := []) rfl hw

theorem Lined.occurs_trimChars {p : Pattern} (hp : p.Lined) {cs : List Char} :
    p.Occurs (trimChars cs) ↔ p.Occurs cs := by
  obtain ⟨x, y, hcs, hx, hy⟩ := exists_trimChars_append cs
  calc p.Occurs (trimChars cs)
    _ ↔ p.Occurs (x ++ trimChars cs) := (occurs_blanks_append hp.not_nullable hp.opens hx).symm
    _ ↔ p.Occurs (x ++ trimChars cs ++ y) :=
      (occurs_append_blanks hp.not_nullable hp.closes hy).symm
    _ ↔ p.Occurs cs := by rw [← hcs]

end Pattern

end TaskPipeline
