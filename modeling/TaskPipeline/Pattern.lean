import TaskPipeline.Text.Blank
import TaskPipeline.Text.Fold
import TaskPipeline.Text.Word

/-!
Search patterns over texts. `Pattern.Matches` says which stretches of a text a pattern covers,
`Pattern.ends` computes them, and `Pattern.foundIn` searches a text. Word edges look at the
characters on both sides, so a place in a text remembers the character before it.
-/

namespace TaskPipeline

open Text

/-- A set of characters. -/
inductive CharSet where
  /-- A character in any case. -/
  | letter (c : Char)
  /-- A character in its own case. -/
  | exactly (c : Char)
  /-- One of several characters. -/
  | among (cs : List Char)
  /-- A decimal digit. -/
  | digit
  /-- Anything but white space. -/
  | nonBlank

/-- The character lies in the set. -/
def CharSet.has : CharSet → Char → Bool
  | letter a, c => sameLetter a c
  | exactly a, c => a == c
  | among cs, c => cs.contains c
  | digit, c => isDecimalDigit c
  | nonBlank, c => !isBlank c

inductive Pattern where
  | empty
  /-- One character of a set. -/
  | one (set : CharSet)
  /-- One or more characters of a set. -/
  | many (set : CharSet)
  | seq (p q : Pattern)
  | alt (p q : Pattern)
  /-- A place between a word character and none. -/
  | wordEdge

/-- A place in a text: the character before it and the text after it. -/
structure Place where
  before : Option Char
  after : List Char

namespace Place

/-- The start of a text. -/
def start (text : List Char) : Place := ⟨none, text⟩

/-- A word begins or ends here. -/
def atWordEdge (p : Place) : Bool := p.before.any isWord != p.after.head?.any isWord

end Place

namespace Pattern

/-! ## Building patterns -/

instance : Append Pattern := ⟨seq⟩

/-- A text in any case. -/
def text (s : String) : Pattern := s.toList.foldr (fun c p => seq (one (.letter c)) p) empty

/-- A text in its own case. -/
def verbatim (s : String) : Pattern := s.toList.foldr (fun c p => seq (one (.exactly c)) p) empty

instance : Coe String Pattern := ⟨text⟩

/-- The pattern or nothing. -/
def opt (p : Pattern) : Pattern := alt p empty

/-- One of several patterns. -/
def anyOf : List Pattern → Pattern
  | [] => one (.among [])
  | [p] => p
  | p :: ps => alt p (anyOf ps)

/-! ## Matching -/

/-- `p.Matches a b`: the pattern covers the text from `a` to `b`. -/
inductive Matches : Pattern → Place → Place → Prop where
  | empty (a : Place) : Matches empty a a
  | one {set : CharSet} {b : Option Char} {c : Char} {rest : List Char} :
      set.has c = true → Matches (one set) ⟨b, c :: rest⟩ ⟨c, rest⟩
  | many {set : CharSet} {b : Option Char} {c : Char} {rest : List Char} :
      set.has c = true → Matches (many set) ⟨b, c :: rest⟩ ⟨c, rest⟩
  | more {set : CharSet} {b : Option Char} {c : Char} {rest : List Char} {e : Place} :
      set.has c = true → Matches (many set) ⟨c, rest⟩ e → Matches (many set) ⟨b, c :: rest⟩ e
  | seq {p q : Pattern} {a b c : Place} : Matches p a b → Matches q b c → Matches (seq p q) a c
  | left {p q : Pattern} {a b : Place} : Matches p a b → Matches (alt p q) a b
  | right {p q : Pattern} {a b : Place} : Matches q a b → Matches (alt p q) a b
  | wordEdge {a : Place} : a.atWordEdge = true → Matches wordEdge a a

/-- Where a run of one or more characters of the set can end. -/
def runEnds (set : CharSet) : List Char → List Place
  | [] => []
  | c :: rest => if set.has c then ⟨c, rest⟩ :: runEnds set rest else []

/-- Where the pattern can end that starts at a place. -/
def ends : Pattern → Place → List Place
  | empty, a => [a]
  | one set, a =>
    match a.after with
    | c :: rest => if set.has c then [⟨c, rest⟩] else []
    | [] => []
  | many set, a => runEnds set a.after
  | seq p q, a => (ends p a).flatMap (ends q)
  | alt p q, a => ends p a ++ ends q a
  | wordEdge, a => if a.atWordEdge then [a] else []

/-- The pattern covers a stretch that starts at this place. -/
def startsAt (p : Pattern) (a : Place) : Bool := !(p.ends a).isEmpty

/-- The pattern covers a stretch that starts somewhere after a place. -/
def foundFrom (p : Pattern) (before : Option Char) : List Char → Bool
  | [] => p.startsAt ⟨before, []⟩
  | c :: rest => p.startsAt ⟨before, c :: rest⟩ || p.foundFrom c rest

/-- The pattern covers some stretch of the text. -/
def foundIn (p : Pattern) (s : String) : Bool := p.foundFrom none s.toList

/-! ## The search finds what the relation says -/

theorem mem_runEnds {set : CharSet} {b : Option Char} {cs : List Char} {e : Place} :
    e ∈ runEnds set cs ↔ Matches (many set) ⟨b, cs⟩ e := by
  induction cs generalizing b with
  | nil => exact ⟨fun h => by simp [runEnds] at h, fun h => nomatch h⟩
  | cons c rest ih =>
    rw [runEnds]
    constructor
    · intro h
      split at h
      · next hc =>
        rcases List.mem_cons.mp h with rfl | h
        · exact .many hc
        · exact .more hc (ih.mp h)
      · cases h
    · intro h
      cases h with
      | many hc => simp [hc]
      | more hc h => simp only [hc, if_true]; exact List.mem_cons_of_mem _ (ih.mpr h)

theorem mem_ends {p : Pattern} {a e : Place} : e ∈ p.ends a ↔ p.Matches a e := by
  induction p generalizing a e with
  | empty =>
    simp only [ends, List.mem_singleton]
    exact ⟨fun h => h ▸ .empty a, fun h => by cases h; rfl⟩
  | one set =>
    obtain ⟨b, cs⟩ := a
    cases cs with
    | nil => exact ⟨fun h => by simp [ends] at h, fun h => nomatch h⟩
    | cons c rest =>
      simp only [ends]
      constructor
      · intro h
        split at h
        · next hc => rw [List.mem_singleton.mp h]; exact .one hc
        · cases h
      · intro h
        cases h with
        | one hc => simp [hc]
  | many set => exact mem_runEnds
  | seq p q ihp ihq =>
    simp only [ends, List.mem_flatMap]
    constructor
    · rintro ⟨m, hp, hq⟩
      exact .seq (ihp.mp hp) (ihq.mp hq)
    · intro h
      cases h with
      | seq hp hq => exact ⟨_, ihp.mpr hp, ihq.mpr hq⟩
  | alt p q ihp ihq =>
    simp only [ends, List.mem_append]
    constructor
    · rintro (h | h)
      · exact .left (ihp.mp h)
      · exact .right (ihq.mp h)
    · intro h
      cases h with
      | left h => exact .inl (ihp.mpr h)
      | right h => exact .inr (ihq.mpr h)
  | wordEdge =>
    simp only [ends]
    constructor
    · intro h
      split at h
      · next he => rw [List.mem_singleton.mp h]; exact .wordEdge he
      · cases h
    · intro h
      cases h with
      | wordEdge he => simp [he]

theorem startsAt_iff {p : Pattern} {a : Place} : p.startsAt a = true ↔ ∃ e, p.Matches a e := by
  rw [startsAt, Bool.not_eq_true', List.isEmpty_eq_false_iff_exists_mem]
  exact exists_congr fun _ => mem_ends

end Pattern

end TaskPipeline
