import TaskPipeline.Proofs.Pattern.Covers

/-!
# Texts that are nothing to a pattern

Where only the front of a text is known, `Pattern.knownEnds` still says where a match can end,
unless that depends on what follows; then it gives up. What it says holds whatever follows
(`ends_followedBy`). A pattern that can start nowhere in a text passes over it, and it is found
behind the text exactly if it is found without it (`foundIn_append`).

In a text of few characters only that part of a pattern counts which can be spelled with them
(`Occurs.within`).
-/

namespace TaskPipeline

open Text

/-- The place with more text behind it. -/
def Place.followedBy (a : Place) (cs : List Char) : Place := ⟨a.before, a.after ++ cs⟩

namespace Pattern

/-- Where a run of the set can end in a text that goes on; none if the run may go on, too. -/
def knownRunEnds (set : CharSet) : List Char → Option (List Place)
  | [] => none
  | c :: rest => if set.has c then (knownRunEnds set rest).map (⟨c, rest⟩ :: ·) else some []

/-- Where a match can end that starts at a place of a text that goes on; none if that depends on how
the text goes on. -/
def knownEnds : Pattern → Place → Option (List Place)
  | empty, a => some [a]
  | one set, a =>
    match a.after with
    | c :: rest => some (if set.has c then [⟨c, rest⟩] else [])
    | [] => none
  | many set, a => knownRunEnds set a.after
  | seq p q, a => do
    let ends ← (← knownEnds p a).mapM (knownEnds q)
    return ends.flatten
  | alt p q, a => do return (← knownEnds p a) ++ (← knownEnds q a)
  | wordEdge, a => if a.after.isEmpty then none else some (if a.atWordEdge then [a] else [])

/-- No match starts in the text, whatever follows it. -/
def passesOver (p : Pattern) (before : Option Char) : List Char → Bool
  | [] => true
  | c :: rest =>
    (p.knownEnds ⟨before, c :: rest⟩).any (·.isEmpty) && p.passesOver (some c) rest

/-- The part of a pattern that can be spelled with the characters; none if nothing can. -/
def within (letters : List Char) : Pattern → Option Pattern
  | empty => some empty
  | one set => if letters.any set.has then some (one set) else none
  | many set => if letters.any set.has then some (many set) else none
  | seq p q => do return seq (← p.within letters) (← q.within letters)
  | alt p q =>
    match p.within letters, q.within letters with
    | some p, some q => some (alt p q)
    | some p, none => some p
    | none, q => q
  | wordEdge => some wordEdge

/-! ## What is known holds whatever follows -/

section

variable {p : Pattern} {set : CharSet} {a : Place} {b : Option Char} {x cs : List Char}
  {es : List Place}

theorem runEnds_append (h : knownRunEnds set x = some es) :
    runEnds set (x ++ cs) = es.map (·.followedBy cs) := by
  induction x generalizing es with
  | nil => cases h
  | cons c rest ih =>
    rw [knownRunEnds] at h
    rw [List.cons_append, runEnds]
    split
    · next hc =>
      rw [if_pos hc] at h
      obtain ⟨more, hm, rfl⟩ := Option.map_eq_some_iff.mp h
      rw [ih hm]
      rfl
    · next hc =>
      rw [if_neg hc] at h
      cases h
      rfl

/-- Places reached one by one are reached together. -/
theorem flatMap_followedBy {f : Place → List Place} {g : Place → Option (List Place)}
    (hg : ∀ e es, g e = some es → f (e.followedBy cs) = es.map (·.followedBy cs))
    {ess : List (List Place)} (h : es.mapM g = some ess) :
    (es.map (·.followedBy cs)).flatMap f = ess.flatten.map (·.followedBy cs) := by
  induction es generalizing ess with
  | nil => cases h; rfl
  | cons e es ih =>
    rw [List.mapM_cons] at h
    obtain ⟨ends, he, h⟩ := Option.bind_eq_some_iff.mp h
    obtain ⟨rest, hes, h⟩ := Option.bind_eq_some_iff.mp h
    cases h
    rw [List.map_cons, List.flatMap_cons, hg e ends he, ih hes, List.flatten_cons, List.map_append]

/-- **What is known of a match holds whatever follows.** -/
theorem ends_followedBy (h : p.knownEnds a = some es) :
    p.ends (a.followedBy cs) = es.map (·.followedBy cs) := by
  induction p generalizing a es with
  | empty => cases h; rfl
  | one set =>
    obtain ⟨b, x⟩ := a
    cases x with
    | nil => cases h
    | cons c rest =>
      cases h
      rw [Place.followedBy, List.cons_append, ends]
      dsimp only
      split <;> rfl
  | many set => exact runEnds_append h
  | seq p q ihp ihq =>
    obtain ⟨middle, hp, h⟩ := Option.bind_eq_some_iff.mp h
    obtain ⟨ess, hq, h⟩ := Option.bind_eq_some_iff.mp h
    cases h
    rw [ends, ihp hp]
    exact flatMap_followedBy (fun _ _ => ihq) hq
  | alt p q ihp ihq =>
    obtain ⟨left, hp, h⟩ := Option.bind_eq_some_iff.mp h
    obtain ⟨right, hq, h⟩ := Option.bind_eq_some_iff.mp h
    cases h
    rw [ends, ihp hp, ihq hq, List.map_append]
  | wordEdge =>
    obtain ⟨b, x⟩ := a
    cases x with
    | nil => cases h
    | cons c rest =>
      cases h
      -- an edge is seen from the next character, which is known
      have he : (Place.followedBy ⟨b, c :: rest⟩ cs).atWordEdge =
          Place.atWordEdge ⟨b, c :: rest⟩ := rfl
      rw [ends, he]
      split <;> rfl

/-! ## The search passes over -/

theorem foundFrom_append (h : p.passesOver b x = true) :
    p.foundFrom b (x ++ cs) = p.foundFrom (x.getLast?.or b) cs := by
  induction x generalizing b with
  | nil => rfl
  | cons c rest ih =>
    rw [passesOver, Bool.and_eq_true, Option.any_eq_true] at h
    obtain ⟨⟨es, hes, he⟩, h⟩ := h
    obtain rfl := List.isEmpty_iff.mp he
    have hs : p.startsAt ⟨b, c :: (rest ++ cs)⟩ = false := by
      rw [startsAt, ← List.cons_append]
      exact congrArg (!·.isEmpty) (ends_followedBy hes)
    rw [List.cons_append, foundFrom, hs, Bool.false_or, ih h, List.getLast?_cons]
    cases rest.getLast? <;> rfl

/-- Of what stands before a text the search sees only whether a word goes on there. -/
theorem foundFrom_before {u v : List Char}
    (h : u.getLast?.any isWord = v.getLast?.any isWord) :
    p.foundFrom u.getLast? cs = p.foundFrom v.getLast? cs := by
  have hgo : ∀ {u v : List Char}, u.getLast?.any isWord = v.getLast?.any isWord →
      p.foundFrom u.getLast? cs = true → p.foundFrom v.getLast? cs = true := by
    intro u v h hf
    obtain ⟨w, m, e, hcs, hc⟩ := foundFrom_iff.mp hf
    exact foundFrom_iff.mpr ⟨w, m, e, hcs, hc.of_same_edges (wordBefore_append h.symm) rfl⟩
  exact Bool.eq_iff_iff.mpr ⟨hgo h, hgo h.symm⟩

/-- A pattern that passes over a text is found behind it exactly if it is found without it. -/
theorem foundIn_append {label s : String} (h : p.passesOver none label.toList = true)
    (hw : label.toList.getLast?.any isWord = false) : p.foundIn (label ++ s) = p.foundIn s := by
  rw [foundIn, foundIn, String.toList_append, foundFrom_append h, Option.or_none]
  exact foundFrom_before (v := []) hw

end

/-! ## Few characters -/

section

variable {p : Pattern} {set : CharSet} {u m v cs letters : List Char}

theorem any_has {c : Char} (hc : set.has c = true) (hm : c ∈ letters) :
    letters.any set.has = true := List.any_eq_true.mpr ⟨c, hm, hc⟩

theorem Covers.within (h : p.Covers u m v) (hm : ∀ c ∈ m, c ∈ letters) :
    ∃ r ∈ p.within letters, r.Covers u m v := by
  induction p generalizing u m v with
  | empty | wordEdge => exact ⟨_, rfl, h⟩
  | one set =>
    obtain ⟨c, rfl, hc⟩ := covers_one.mp h
    exact ⟨_, if_pos (any_has hc (hm c List.mem_cons_self)), h⟩
  | many set =>
    obtain ⟨hne, hs⟩ := covers_many.mp h
    obtain ⟨c, hc⟩ := List.exists_mem_of_ne_nil m hne
    exact ⟨_, if_pos (any_has (hs c hc) (hm c hc)), h⟩
  | seq p q ihp ihq =>
    obtain ⟨m₁, m₂, rfl, hp, hq⟩ := covers_seq.mp h
    obtain ⟨hm₁, hm₂⟩ := List.forall_mem_append.mp hm
    obtain ⟨p', hp', hp⟩ := ihp hp hm₁
    obtain ⟨q', hq', hq⟩ := ihq hq hm₂
    refine ⟨.seq p' q', ?_, covers_seq.mpr ⟨m₁, m₂, rfl, hp, hq⟩⟩
    rw [Pattern.within, hp', hq']
    rfl
  | alt p q ihp ihq =>
    rw [Pattern.within]
    rcases covers_alt.mp h with h | h
    · obtain ⟨p', hp', h⟩ := ihp h hm
      rw [hp']
      cases q.within letters with
      | none => exact ⟨p', rfl, h⟩
      | some q' => exact ⟨.alt p' q', rfl, covers_alt.mpr (.inl h)⟩
    · obtain ⟨q', hq', h⟩ := ihq h hm
      rw [hq']
      cases p.within letters with
      | none => exact ⟨q', rfl, h⟩
      | some p' => exact ⟨.alt p' q', rfl, covers_alt.mpr (.inr h)⟩

/-- What occurs in a text occurs in it already with the part that the text can spell. -/
theorem Occurs.within (h : p.Occurs cs) (hcs : ∀ c ∈ cs, c ∈ letters) :
    ∃ r ∈ p.within letters, r.Occurs cs := by
  obtain ⟨u, m, v, rfl, h⟩ := h
  obtain ⟨r, hr, h⟩ := h.within fun c hc =>
    hcs c (List.mem_append_left _ (List.mem_append_right _ hc))
  exact ⟨r, hr, u, m, v, rfl, h⟩

end

end Pattern

end TaskPipeline
