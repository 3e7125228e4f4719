import TaskPipeline.Pattern

/-!
# What a pattern covers, and what may stand around it

`p.Covers u m v` says that `p` covers `m` with `u` before it and `v` after it. There is one
equation a constructor (`covers_one`, `covers_seq`, ...), and the search of `Pattern.foundIn` finds
exactly the covered stretches (`foundIn_iff_occurs`). Of what stands around a stretch a pattern
sees only whether a word goes on there (`Covers.of_same_edges`).
-/

namespace TaskPipeline.Pattern

open Text

/-- The pattern covers `m` where it stands between `u` and `v`. -/
def Covers (p : Pattern) (u m v : List Char) : Prop :=
  p.Matches ⟨u.getLast?, m ++ v⟩ ⟨(u ++ m).getLast?, v⟩

/-- The pattern covers some stretch of the characters. -/
def Occurs (p : Pattern) (cs : List Char) : Prop := ∃ u m v, cs = u ++ m ++ v ∧ p.Covers u m v

/-- A match leaves the end of the text as it is and remembers the last character that it read. -/
theorem Matches.exists_stretch {p : Pattern} {a e : Place} (h : p.Matches a e) :
    ∃ m, a.after = m ++ e.after ∧ e.before = m.getLast?.or a.before := by
  induction h with
  | empty | wordEdge => exact ⟨[], rfl, rfl⟩
  | one | many => exact ⟨[_], rfl, rfl⟩
  | @more set b c rest e _ _ ih =>
    obtain ⟨m, ha, hb⟩ := ih
    refine ⟨c :: m, by rw [List.cons_append, ← ha], ?_⟩
    rw [hb, List.getLast?_cons]
    cases m.getLast? <;> rfl
  | seq _ _ ihp ihq =>
    obtain ⟨m, ha, hb⟩ := ihp
    obtain ⟨n, hb', hc⟩ := ihq
    exact ⟨m ++ n, by rw [ha, hb', List.append_assoc],
      by rw [hc, hb, List.getLast?_append, Option.or_assoc]⟩
  | left _ ih | right _ ih => exact ih

/-- Every match from a place is a covered stretch. -/
theorem Matches.exists_covers {p : Pattern} {u cs : List Char} {e : Place}
    (h : p.Matches ⟨u.getLast?, cs⟩ e) :
    ∃ m, cs = m ++ e.after ∧ e = ⟨(u ++ m).getLast?, e.after⟩ ∧ p.Covers u m e.after := by
  obtain ⟨m, ha, hb⟩ := h.exists_stretch
  have he : e = ⟨(u ++ m).getLast?, e.after⟩ := by
    rw [List.getLast?_append, ← hb]
  refine ⟨m, ha, he, ?_⟩
  rw [Covers, ← he, ← ha]
  exact h

/-! ## One equation a constructor -/

section

variable {p q : Pattern} {set : CharSet} {u m v : List Char}

theorem covers_iff_mem_ends :
    p.Covers u m v ↔ ⟨(u ++ m).getLast?, v⟩ ∈ p.ends ⟨u.getLast?, m ++ v⟩ := mem_ends.symm

theorem covers_empty : Covers .empty u m v ↔ m = [] := by
  rw [covers_iff_mem_ends, ends, List.mem_singleton, Place.mk.injEq]
  constructor
  · rintro ⟨-, h⟩
    exact List.self_eq_append_left.mp h
  · rintro rfl
    exact ⟨by rw [List.append_nil], rfl⟩

theorem covers_one : Covers (.one set) u m v ↔ ∃ c, m = [c] ∧ set.has c = true := by
  constructor
  · intro h
    have hs : ∀ {a e : Place}, (one set).Matches a e →
        ∃ c, a.after = [c] ++ e.after ∧ set.has c = true :=
      fun h => by cases h with | one hc => exact ⟨_, rfl, hc⟩
    obtain ⟨c, hm, hc⟩ := hs h
    exact ⟨c, List.append_cancel_right hm, hc⟩
  · rintro ⟨c, rfl, hc⟩
    rw [Covers, List.getLast?_concat]
    exact .one hc

/-- A run reads one or more characters, all of the set. -/
theorem Matches.exists_run {a e : Place} (h : (Pattern.many set).Matches a e) :
    ∃ m, a.after = m ++ e.after ∧ m ≠ [] ∧ ∀ c ∈ m, set.has c = true := by
  generalize hp : Pattern.many set = p at h
  induction h with
  | many hc => cases hp; exact ⟨[_], rfl, by simp, by simpa using hc⟩
  | @more set b c rest e hc _ ih =>
    cases hp
    obtain ⟨m, ha, -, hm⟩ := ih rfl
    exact ⟨c :: m, by rw [List.cons_append, ← ha], by simp, List.forall_mem_cons.mpr ⟨hc, hm⟩⟩
  | _ => cases hp

theorem covers_many : Covers (.many set) u m v ↔ m ≠ [] ∧ ∀ c ∈ m, set.has c = true := by
  constructor
  · intro h
    obtain ⟨m', hm, h'⟩ := Matches.exists_run h
    obtain rfl : m = m' := List.append_cancel_right hm
    exact h'
  · rintro ⟨hne, hm⟩
    induction m generalizing u with
    | nil => exact absurd rfl hne
    | cons c m ih =>
      obtain ⟨hc, hm⟩ := List.forall_mem_cons.mp hm
      have hb : (u ++ [c]).getLast? = some c := List.getLast?_concat
      cases m with
      | nil => rw [Covers, hb]; exact .many hc
      | cons d m =>
        have h := ih (u := u ++ [c]) (by simp) hm
        rw [Covers, hb, List.append_assoc, List.singleton_append] at h
        exact .more hc h

theorem covers_seq : Covers (.seq p q) u m v ↔
    ∃ m₁ m₂, m = m₁ ++ m₂ ∧ p.Covers u m₁ (m₂ ++ v) ∧ q.Covers (u ++ m₁) m₂ v := by
  constructor
  · intro h
    rw [covers_iff_mem_ends, ends, List.mem_flatMap] at h
    obtain ⟨b, hp, hq⟩ := h
    obtain ⟨m₁, hm₁, hb, hp⟩ := (mem_ends.mp hp).exists_covers
    rw [hb] at hq
    obtain ⟨m₂, hm₂, he, hq⟩ := (mem_ends.mp hq).exists_covers
    obtain ⟨-, hv⟩ := Place.mk.inj he
    dsimp only at hv hm₂ hq
    rw [hm₂] at hp hm₁
    rw [← List.append_assoc] at hm₁
    exact ⟨m₁, m₂, List.append_cancel_right hm₁, hp, hq⟩
  · rintro ⟨m₁, m₂, rfl, hp, hq⟩
    rw [Covers, List.append_assoc, ← List.append_assoc u]
    exact .seq hp hq

theorem covers_alt : Covers (.alt p q) u m v ↔ p.Covers u m v ∨ q.Covers u m v := by
  simp only [covers_iff_mem_ends, ends, List.mem_append]

theorem covers_wordEdge : Covers .wordEdge u m v ↔
    m = [] ∧ u.getLast?.any isWord ≠ v.head?.any isWord := by
  rw [covers_iff_mem_ends, ends]
  constructor
  · intro h
    split at h
    · next he =>
      obtain ⟨-, hv⟩ := Place.mk.inj (List.mem_singleton.mp h)
      obtain rfl := List.self_eq_append_left.mp hv
      exact ⟨rfl, by simpa [Place.atWordEdge] using he⟩
    · cases h
  · rintro ⟨rfl, he⟩
    rw [if_pos (by simpa [Place.atWordEdge] using he), List.append_nil]
    exact List.mem_singleton.mpr rfl

end

/-! ## The search -/

theorem foundFrom_iff {p : Pattern} {u cs : List Char} : p.foundFrom u.getLast? cs = true ↔
    ∃ w m v, cs = w ++ m ++ v ∧ p.Covers (u ++ w) m v := by
  induction cs generalizing u with
  | nil =>
    rw [foundFrom, startsAt_iff]
    constructor
    · rintro ⟨e, h⟩
      obtain ⟨m, hm, -, h⟩ := h.exists_covers
      exact ⟨[], m, e.after, hm, by rwa [List.append_nil]⟩
    · rintro ⟨w, m, v, hcs, h⟩
      obtain ⟨rfl, rfl, rfl⟩ : w = [] ∧ m = [] ∧ v = [] := by simpa using hcs.symm
      rw [List.append_nil] at h
      exact ⟨_, h⟩
  | cons c cs ih =>
    have hc : (some c : Option Char) = (u ++ [c]).getLast? := List.getLast?_concat.symm
    rw [foundFrom, hc, Bool.or_eq_true, ih, startsAt_iff]
    constructor
    · rintro (⟨e, h⟩ | ⟨w, m, v, hcs, h⟩)
      · obtain ⟨m, hm, -, h⟩ := h.exists_covers
        exact ⟨[], m, e.after, hm, by rwa [List.append_nil]⟩
      · exact ⟨c :: w, m, v, by rw [hcs]; rfl, by simpa using h⟩
    · rintro ⟨w, m, v, hcs, h⟩
      cases w with
      | nil =>
        rw [List.append_nil] at h
        exact .inl ⟨_, by rw [hcs]; exact h⟩
      | cons d w =>
        obtain ⟨rfl, rfl⟩ := List.cons.inj hcs
        exact .inr ⟨w, m, v, rfl, by simpa using h⟩

/-- The search finds a pattern exactly if it covers some stretch of the text. -/
theorem foundIn_iff_occurs {p : Pattern} {s : String} :
    p.foundIn s = true ↔ p.Occurs s.toList := foundFrom_iff (u := [])

/-! ## What stands around a stretch -/

section

variable {u v w : List Char}

/-- Whether a word goes on behind a text depends on what is before it only where it is empty. -/
theorem wordBefore_append (h : u.getLast?.any isWord = v.getLast?.any isWord) :
    (u ++ w).getLast?.any isWord = (v ++ w).getLast?.any isWord := by
  rw [List.getLast?_append, List.getLast?_append]
  cases w.getLast? with
  | none => exact h
  | some c => rfl

theorem wordAfter_append (h : u.head?.any isWord = v.head?.any isWord) :
    (w ++ u).head?.any isWord = (w ++ v).head?.any isWord := by
  cases w with
  | nil => exact h
  | cons c w => rfl

end

/-- A pattern looks beyond its stretch only to see whether a word goes on there. -/
theorem Covers.of_same_edges {p : Pattern} {u u' m v v' : List Char} (h : p.Covers u m v)
    (hu : u'.getLast?.any isWord = u.getLast?.any isWord)
    (hv : v'.head?.any isWord = v.head?.any isWord) : p.Covers u' m v' := by
  induction p generalizing u u' m v v' with
  | empty => exact covers_empty.mpr (covers_empty.mp h)
  | one set => exact covers_one.mpr (covers_one.mp h)
  | many set => exact covers_many.mpr (covers_many.mp h)
  | seq p q ihp ihq =>
    obtain ⟨m₁, m₂, rfl, hp, hq⟩ := covers_seq.mp h
    exact covers_seq.mpr
      ⟨m₁, m₂, rfl, ihp hp hu (wordAfter_append hv), ihq hq (wordBefore_append hu) hv⟩
  | alt p q ihp ihq =>
    rcases covers_alt.mp h with h | h
    · exact covers_alt.mpr (.inl (ihp h hu hv))
    · exact covers_alt.mpr (.inr (ihq h hu hv))
  | wordEdge =>
    obtain ⟨hm, he⟩ := covers_wordEdge.mp h
    exact covers_wordEdge.mpr ⟨hm, by rwa [hu, hv]⟩

/-- What occurs in a text occurs in it between two other texts, where no word goes on across the
seams. -/
theorem Occurs.surround {p : Pattern} {x cs y : List Char} (h : p.Occurs cs)
    (hx : x.getLast?.any isWord = false) (hy : y.head?.any isWord = false) :
    p.Occurs (x ++ cs ++ y) := by
  obtain ⟨u, m, v, rfl, h⟩ := h
  refine ⟨x ++ u, m, v ++ y, by simp only [List.append_assoc], h.of_same_edges ?_ ?_⟩
  · exact wordBefore_append (v := []) hx
  · simpa using wordAfter_append (v := []) (w := v) hy

end TaskPipeline.Pattern
