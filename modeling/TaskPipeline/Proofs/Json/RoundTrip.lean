import TaskPipeline.Json.Parser
import TaskPipeline.Json.Printer

/-!
# What is printed is read back

A value is plain if it is made of integers of 64 bits, texts, booleans and nulls and does not nest
deeper than a reader follows. `parse_toText`, `parse_toPrettyText`: the text of a plain value, in
one line or over several, is read as that value. Both texts are layouts of one printer that differ
in the blanks between the pieces. The proof follows that printer: each piece is read off the front
of what follows it, and a digit run ends because only a comma, a closing bracket or a blank may
follow a value.
-/

namespace TaskPipeline.Json

/-! ## Numbers -/

theorem isSpace_iff {c : Char} :
    isSpace c = true ↔ c = ' ' ∨ c = '\n' ∨ c = '\t' ∨ c = '\r' := by
  simp [isSpace, or_assoc]

theorem isDigit_of_isSpace {c : Char} (h : isSpace c = true) : c.isDigit = false := by
  rcases isSpace_iff.mp h with rfl | rfl | rfl | rfl <;> rfl

/-- What may follow a value inside a text: nothing, a comma, a closing bracket or a blank. -/
def Stops (rest : List Char) : Prop :=
  ∀ c ∈ rest.head?, c = ',' ∨ c = ']' ∨ c = '\x7d' ∨ isSpace c = true

theorem stops_nil : Stops [] := fun _ h => nomatch h

theorem stops_cons {c : Char} {rest : List Char}
    (h : c = ',' ∨ c = ']' ∨ c = '\x7d' ∨ isSpace c = true) :
    Stops (c :: rest) := fun d hd => by cases hd; exact h

theorem Stops.cases {c : Char} {rest : List Char} (h : Stops (c :: rest)) :
    c = ',' ∨ c = ']' ∨ c = '\x7d' ∨ c = ' ' ∨ c = '\n' ∨ c = '\t' ∨ c = '\r' := by
  simpa only [isSpace_iff] using h c rfl

theorem digitsValue_toDigits (n : Nat) : Text.digitsValue (Nat.toDigits 10 n) = n := by
  have h := Nat.ofDigitChars_ten_toDigits (n := n)
  rw [Nat.ofDigitChars_eq_foldl] at h
  simpa only [Text.digitsValue, Nat.mul_comm] using h

theorem isDigit_of_toDigits {n : Nat} {c : Char} (h : c ∈ Nat.toDigits 10 n) : c.isDigit = true :=
  Nat.isDigit_of_mem_toDigits (by decide) (by decide) h

/-- Only zero is written with a zero in front. -/
theorem toDigits_head_ne_zero {n : Nat} (h : 0 < n) : (Nat.toDigits 10 n).head? ≠ some '0' := by
  induction n using Nat.strongRecOn with
  | ind n ih =>
    by_cases hn : n < 10
    · rw [Nat.toDigits_of_lt_base hn]
      have : ∀ m : Nat, m < 10 → 0 < m → ([m.digitChar].head? ≠ some '0') := by decide
      exact this n hn h
    · have hne : (Nat.toDigits 10 (n / 10)).head? ≠ none :=
        fun h => Nat.toDigits_ne_nil (List.head?_eq_none_iff.mp h)
      obtain ⟨c, hc⟩ := Option.ne_none_iff_exists'.mp hne
      rw [Nat.toDigits_of_base_le (by decide) (by omega), List.head?_append, hc, Option.some_or,
        ← hc]
      exact ih (n / 10) (by omega) (by omega)

theorem spanDigits_append {ds rest : List Char} (hd : ∀ c ∈ ds, c.isDigit = true)
    (hr : Stops rest) : spanDigits (ds ++ rest) = (ds, rest) := by
  have hstop : rest.takeWhile Char.isDigit = [] ∧ rest.dropWhile Char.isDigit = rest := by
    cases rest with
    | nil => exact ⟨rfl, rfl⟩
    | cons c rest =>
      have hc : c.isDigit = false := by
        rcases hr.cases with rfl | rfl | rfl | rfl | rfl | rfl | rfl <;> rfl
      simp [hc]
  rw [spanDigits, List.takeWhile_append_of_pos hd, List.dropWhile_append_of_pos hd, hstop.1,
    hstop.2, List.append_nil]

theorem someDigits_toDigits (n : Nat) {rest : List Char} (hr : Stops rest) :
    someDigits (Nat.toDigits 10 n ++ rest) = some (Nat.toDigits 10 n, rest) := by
  rw [someDigits, spanDigits_append (fun _ => isDigit_of_toDigits) hr]
  split
  · next he => exact absurd (congrArg Prod.fst he) Nat.toDigits_ne_nil
  · rfl

/-- An integer, as the reader splits it. -/
def integer (negative : Bool) (n : Nat) : Written := ⟨negative, Nat.toDigits 10 n, none, none⟩

theorem written_integer (negative : Bool) (n : Nat) {rest : List Char} (hr : Stops rest) :
    written ((if negative then ['-'] else []) ++ (Nat.toDigits 10 n ++ rest)) =
      some (integer negative n, rest) := by
  have hlead : ¬((Nat.toDigits 10 n).length > 1 ∧ (Nat.toDigits 10 n).head? = some '0') := by
    rintro ⟨hlen, hzero⟩
    rcases Nat.eq_zero_or_pos n with rfl | hn
    · rw [Nat.toDigits_zero] at hlen; simp at hlen
    · exact toDigits_head_ne_zero hn hzero
  cases negative with
  | true =>
    simp only [if_true, List.singleton_append, written, Option.bind_eq_bind,
      someDigits_toDigits n hr, Option.bind_some, if_neg hlead]
    cases rest with
    | nil => rfl
    | cons c rest => rcases hr.cases with rfl | rfl | rfl | rfl | rfl | rfl | rfl <;> rfl
  | false =>
    obtain ⟨c, ds, hc⟩ := List.exists_cons_of_ne_nil (Nat.toDigits_ne_nil (n := n) (b := 10))
    have hd : c.isDigit = true := isDigit_of_toDigits (hc ▸ List.mem_cons_self)
    have hdigits := someDigits_toDigits n hr
    rw [hc] at hdigits hlead
    simp only [hc, Bool.false_eq_true, if_false, List.nil_append, List.cons_append] at hdigits ⊢
    unfold written
    split
    next sign cs he =>
    split at he
    · next he' => cases he'; cases hd
    cases he
    simp only [Option.bind_eq_bind, hdigits, Option.bind_some, if_neg hlead]
    cases rest with
    | nil => rw [integer, hc]; rfl
    | cons c rest =>
      rw [integer, hc]
      rcases hr.cases with rfl | rfl | rfl | rfl | rfl | rfl | rfl <;> rfl

/-- The integers that a reader keeps as integers. -/
def Fits (n : Int) : Prop := Int64.minValue.toInt ≤ n ∧ n < UInt64.size

theorem number_integer_of_nonneg {n : Nat} (h : n < UInt64.size) :
    (integer false n).number = some (.int n) := by
  simp [Written.number, integer, digitsValue_toDigits, h]

theorem number_integer_of_neg {n : Nat} (h : n + 1 ≤ Int64.minValue.toInt.natAbs) :
    (integer true (n + 1)).number = some (.int (Int.negSucc n)) := by
  simp only [Written.number, integer, digitsValue_toDigits]
  refine (if_neg ?_).trans (if_pos ⟨⟨rfl, rfl⟩, trivial, Nat.succ_pos n, h⟩)
  rintro ⟨_, hpositive, _⟩
  cases hpositive

theorem scalar_of_written {c : Char} {cs rest : List Char} {w : Written}
    (hc : c.isDigit = true ∨ c = '-') (h : written (c :: cs) = some (w, rest)) :
    scalar (c :: cs) = some ((w.number.map num).getD unreadable, rest) := by
  unfold scalar
  split
  case h_5 => rw [h]; rfl
  all_goals
    next he => cases he; rcases hc with hc | hc <;> cases hc

theorem scalar_printInt {n : Int} (hn : Fits n) {rest : List Char} (hr : Stops rest) :
    scalar (printInt n ++ rest) = some (num (.int n), rest) := by
  obtain ⟨hlo, hhi⟩ := hn
  cases n with
  | ofNat n =>
    obtain ⟨c, ds, hc⟩ := List.exists_cons_of_ne_nil (Nat.toDigits_ne_nil (n := n) (b := 10))
    have hd : c.isDigit = true := isDigit_of_toDigits (hc ▸ List.mem_cons_self)
    have hw := written_integer false n hr
    simp only [Bool.false_eq_true, if_false, List.nil_append, hc, List.cons_append] at hw
    rw [printInt, hc, List.cons_append, scalar_of_written (.inl hd) hw,
      number_integer_of_nonneg (Int.ofNat_lt.mp hhi)]
    rfl
  | negSucc n =>
    have hle : n + 1 ≤ Int64.minValue.toInt.natAbs := by
      have : Int64.minValue.toInt = -9223372036854775808 := rfl
      rw [this] at hlo ⊢
      omega
    have hw := written_integer true (n + 1) hr
    simp only [if_true, List.singleton_append] at hw
    rw [printInt, List.cons_append, scalar_of_written (.inr rfl) hw, number_integer_of_neg hle]
    rfl

/-! ## Texts -/

/-- A character that a text holds as it is. -/
def IsBare (c : Char) : Prop := 0x20 ≤ c.toNat ∧ c ≠ '"' ∧ c ≠ '\\'

/-- The three ways to write a character. -/
theorem escapedChar_cases (c : Char) :
    IsBare c ∧ escapedChar c = [c] ∨
    (∃ x, shortEscape x = some c ∧ x ≠ 'u' ∧ escapedChar c = ['\\', x]) ∨
    ∃ a b, IsBare a ∧ IsBare b ∧ hexUnit '0' '0' a b = some c.toNat ∧ c.toNat < 0x20 ∧
      escapedChar c = ['\\', 'u', '0', '0', a, b] := by
  unfold escapedChar
  split
  · next h => subst h; exact .inr (.inl ⟨'"', rfl, by decide, rfl⟩)
  split
  · next h => subst h; exact .inr (.inl ⟨'\\', rfl, by decide, rfl⟩)
  split
  · next h => subst h; exact .inr (.inl ⟨'b', rfl, by decide, rfl⟩)
  split
  · next h => subst h; exact .inr (.inl ⟨'f', rfl, by decide, rfl⟩)
  split
  · next h => subst h; exact .inr (.inl ⟨'n', rfl, by decide, rfl⟩)
  split
  · next h => subst h; exact .inr (.inl ⟨'r', rfl, by decide, rfl⟩)
  split
  · next h => subst h; exact .inr (.inl ⟨'t', rfl, by decide, rfl⟩)
  split
  · next h =>
    have hall : ∀ n : Nat, n < 0x20 → IsBare (Nat.digitChar (n / 16)) ∧
        IsBare (Nat.digitChar (n % 16)) ∧
        hexUnit '0' '0' (Nat.digitChar (n / 16)) (Nat.digitChar (n % 16)) = some n := by
      unfold IsBare; decide
    obtain ⟨ha, hb, hx⟩ := hall c.toNat h
    exact .inr (.inr ⟨_, _, ha, hb, hx, h, rfl⟩)
  · next hq hs _ _ _ _ _ h => exact .inl ⟨⟨Nat.le_of_not_lt h, hq, hs⟩, rfl⟩

theorem rawString_bare {c : Char} (hc : IsBare c) (cs : List Char) :
    rawString (c :: cs) = (rawString cs).map fun r => (c :: r.1, r.2) := by
  obtain ⟨hge, hq, hs⟩ := hc
  rw [rawString.eq_def]
  split
  · next h => cases h
  · next h => cases h; exact absurd rfl hq
  · next h => cases h; exact absurd rfl hs
  · next h =>
    cases h
    rw [if_neg (by omega)]
    cases rawString cs <;> rfl

theorem rawString_escape (x : Char) (cs : List Char) :
    rawString ('\\' :: x :: cs) = (rawString cs).map fun r => ('\\' :: x :: r.1, r.2) := by
  rw [rawString]; cases rawString cs <;> rfl

theorem rawString_escapedChar (c : Char) (cs : List Char) :
    rawString (escapedChar c ++ cs) =
      (rawString cs).map fun r => (escapedChar c ++ r.1, r.2) := by
  rcases escapedChar_cases c with ⟨hc, he⟩ | ⟨x, _, _, he⟩ | ⟨a, b, ha, hb, _, _, he⟩
  · rw [he]; exact rawString_bare hc cs
  · rw [he]; exact rawString_escape x cs
  · have h0 : IsBare '0' := by unfold IsBare; decide
    simp only [he, List.cons_append, List.nil_append, rawString_escape, rawString_bare h0,
      rawString_bare ha, rawString_bare hb, Option.map_map, Function.comp_def]

theorem rawString_print (cs rest : List Char) :
    rawString (cs.flatMap escapedChar ++ '"' :: rest) = some (cs.flatMap escapedChar, rest) := by
  induction cs with
  | nil => rfl
  | cons c cs ih => simp [List.flatMap_cons, List.append_assoc, rawString_escapedChar, ih]

theorem assemble_unit {n : Nat} (h : n < 0x20) (ps : List Piece) :
    assemble (.unit n :: ps) = (assemble ps).map (Char.ofNat n :: ·) := by
  have hh : isHighHalf n = false := by simp [isHighHalf]; omega
  have hl : isLowHalf n = false := by simp [isLowHalf]; omega
  rcases ps with _ | ⟨p, ps⟩
  · simp [assemble, hh, hl]
  · cases p <;> simp [assemble, hh, hl]

/-- A written character is one piece, and the piece stands for the character. -/
theorem exists_piece (c : Char) : ∃ p,
    (∀ cs, pieces (escapedChar c ++ cs) = (pieces cs).map (p :: ·)) ∧
    ∀ ps, assemble (p :: ps) = (assemble ps).map (c :: ·) := by
  rcases escapedChar_cases c with ⟨⟨_, _, hs⟩, he⟩ | ⟨x, hx, hu, he⟩ | ⟨a, b, _, _, hx, hlt, he⟩
  · refine ⟨.char c, fun cs => ?_, fun ps => rfl⟩
    rw [he, List.singleton_append, pieces.eq_def]
    split
    · next h => cases h
    · next h => cases h; exact absurd rfl hs
    · next h => cases h; exact absurd rfl hs
    · next h => cases h; exact absurd rfl hs
    · next h => cases h; cases pieces cs <;> rfl
  · refine ⟨.char c, fun cs => ?_, fun ps => rfl⟩
    rw [he, List.cons_append, List.singleton_append, pieces.eq_def]
    split
    · next h => cases h
    · next h => cases h; exact absurd rfl hu
    · next h => cases h; rw [hx]; cases pieces cs <;> rfl
    · next h => cases h
    · next hne _ h => cases h; exact (hne _ _ rfl rfl).elim
  · refine ⟨.unit c.toNat, fun cs => ?_, fun ps => ?_⟩
    · simp only [he, List.cons_append, List.nil_append, pieces, hx]
      cases pieces cs <;> rfl
    · rw [assemble_unit hlt, Char.ofNat_toNat]

theorem pieces_print (cs : List Char) : (pieces (cs.flatMap escapedChar)).map assemble =
    some (some cs) := by
  induction cs with
  | nil => rfl
  | cons c cs ih =>
    obtain ⟨p, hp, ha⟩ := exists_piece c
    obtain ⟨ps, hps, hcs⟩ := Option.map_eq_some_iff.mp ih
    rw [List.flatMap_cons, hp, hps, Option.map_some, Option.map_some, ha, hcs, Option.map_some]

theorem string_print (cs rest : List Char) :
    string (cs.flatMap escapedChar ++ '"' :: rest) = some (some cs, rest) := by
  obtain ⟨ps, hps, hcs⟩ := Option.map_eq_some_iff.mp (pieces_print cs)
  simp only [string, rawString_print, Option.bind_eq_bind, Option.bind_some, hps, hcs]
  rfl

/-! ## Values -/

mutual

/-- Integers of 64 bits, texts, booleans and nulls, nesting at most `room` deep. -/
def Plain : Nat → Json → Prop
  | _, null | _, bool _ | _, str _ => True
  | _, num (.int n) => Fits n
  | room + 1, arr items => PlainItems room items
  | room + 1, obj members => PlainMembers room members
  | _, _ => False

def PlainItems (room : Nat) : List Json → Prop
  | [] => True
  | x :: xs => Plain room x ∧ PlainItems room xs

def PlainMembers (room : Nat) : List (String × Json) → Prop
  | [] => True
  | (_, x) :: ms => Plain room x ∧ PlainMembers room ms

end

mutual

theorem Plain.mono : ∀ {j : Json} {room more : Nat}, Plain room j → room ≤ more → Plain more j
  | null, _, _, _, _ | bool _, _, _, _, _ | str _, _, _, _, _ => by simp only [Plain]
  | num (.int _), _, _, h, _ => by simpa only [Plain] using h
  | arr _, room + 1, more + 1, h, hle => by
    simp only [Plain] at h ⊢
    exact PlainItems.mono h (Nat.le_of_succ_le_succ hle)
  | obj _, room + 1, more + 1, h, hle => by
    simp only [Plain] at h ⊢
    exact PlainMembers.mono h (Nat.le_of_succ_le_succ hle)
  | arr _, 0, _, h, _ | obj _, 0, _, h, _ | num (.double _), _, _, h, _ | unreadable, _, _, h, _ =>
    by simp [Plain] at h

theorem PlainItems.mono : ∀ {xs : List Json} {room more : Nat},
    PlainItems room xs → room ≤ more → PlainItems more xs
  | [], _, _, _, _ => by simp only [PlainItems]
  | _ :: _, _, _, h, hle => by
    simp only [PlainItems] at h ⊢
    exact ⟨h.1.mono hle, PlainItems.mono h.2 hle⟩

theorem PlainMembers.mono : ∀ {ms : List (String × Json)} {room more : Nat},
    PlainMembers room ms → room ≤ more → PlainMembers more ms
  | [], _, _, _, _ => by simp only [PlainMembers]
  | (_, _) :: _, _, _, h, hle => by
    simp only [PlainMembers] at h ⊢
    exact ⟨h.1.mono hle, PlainMembers.mono h.2 hle⟩

end

/-- A value begins with something that is no blank and closes nothing. -/
def Opens (cs : List Char) : Prop :=
  ∃ c rest, cs = c :: rest ∧ isSpace c = false ∧ c ≠ ']' ∧ c ≠ '\x7d'

theorem opens_printInt (n : Int) : Opens (printInt n) := by
  have hdigit (c : Char) (hc : c.isDigit = true) :
      isSpace c = false ∧ c ≠ ']' ∧ c ≠ '\x7d' := by
    refine ⟨?_, fun h => ?_, fun h => ?_⟩
    · cases hs : isSpace c with
      | false => rfl
      | true => rw [isDigit_of_isSpace hs] at hc; cases hc
    · subst h; cases hc
    · subst h; cases hc
  cases n with
  | ofNat n =>
    obtain ⟨c, ds, hc⟩ := List.exists_cons_of_ne_nil (Nat.toDigits_ne_nil (n := n) (b := 10))
    exact ⟨c, ds, hc, hdigit c (isDigit_of_toDigits (hc ▸ List.mem_cons_self))⟩
  | negSucc n => exact ⟨'-', _, rfl, rfl, by decide, by decide⟩

/-! ## Layouts -/

/-- Where blanks stand in a text: before an item, a member or a closing bracket, by the level of
indentation, and between the colon of a member and its value. -/
structure Layout where
  gap : Nat → List Char
  lead : List Char
  isSpace_gap : ∀ level, ∀ c ∈ gap level, isSpace c = true
  isSpace_lead : ∀ c ∈ lead, isSpace c = true

namespace Layout

def oneLine : Layout := ⟨fun _ => [], [], by simp, by simp⟩

def indented : Layout where
  gap := newLine
  lead := [' ']
  isSpace_gap level c hc := by
    rcases List.mem_cons.mp hc with rfl | hc
    · rfl
    · rw [List.eq_of_mem_replicate hc]; rfl
  isSpace_lead := by simp [isSpace]

variable (l : Layout)

mutual

/-- The text of a value in a layout, from a level of indentation on. -/
def print (level : Nat) : Json → List Char
  | arr [] => ['[', ']']
  | arr (x :: xs) => '[' :: l.gap (level + 1) ++ print (level + 1) x ++ printItems level xs
  | obj [] => ['\x7b', '\x7d']
  | obj ((k, x) :: ms) =>
    '\x7b' :: l.gap (level + 1) ++ printString k ++ ':' :: l.lead ++ print (level + 1) x ++
      printMembers level ms
  | scalar => scalar.print

def printItems (level : Nat) : List Json → List Char
  | [] => l.gap level ++ [']']
  | x :: xs => ',' :: l.gap (level + 1) ++ print (level + 1) x ++ printItems level xs

def printMembers (level : Nat) : List (String × Json) → List Char
  | [] => l.gap level ++ ['\x7d']
  | (k, x) :: ms =>
    ',' :: l.gap (level + 1) ++ printString k ++ ':' :: l.lead ++ print (level + 1) x ++
      printMembers level ms

end

theorem gap_oneLine (level : Nat) : oneLine.gap level = [] := rfl

theorem lead_oneLine : oneLine.lead = [] := rfl

theorem print_str (level : Nat) (s : String) : l.print level (str s) = printString s := rfl

theorem print_int (level : Nat) (n : Int) : l.print level (num (.int n)) = printInt n := rfl

mutual

theorem print_oneLine : ∀ (level : Nat) (j : Json), oneLine.print level j = j.print
  | _, null | _, bool _ | _, num _ | _, str _ | _, arr [] | _, obj [] | _, unreadable => by
    simp only [print, Json.print]
  | level, arr (x :: xs) => by
    simp only [print, Json.print, gap_oneLine, print_oneLine (level + 1) x,
      printItems_oneLine level xs, List.cons_append, List.nil_append]
  | level, obj ((k, x) :: ms) => by
    simp only [print, Json.print, gap_oneLine, lead_oneLine, print_oneLine (level + 1) x,
      printMembers_oneLine level ms, List.cons_append, List.nil_append, List.append_assoc]

theorem printItems_oneLine : ∀ (level : Nat) (xs : List Json),
    oneLine.printItems level xs = Json.printItems xs
  | _, [] => rfl
  | level, x :: xs => by
    simp only [printItems, Json.printItems, gap_oneLine, print_oneLine (level + 1) x,
      printItems_oneLine level xs, List.cons_append, List.nil_append]

theorem printMembers_oneLine : ∀ (level : Nat) (ms : List (String × Json)),
    oneLine.printMembers level ms = Json.printMembers ms
  | _, [] => rfl
  | level, (k, x) :: ms => by
    simp only [printMembers, Json.printMembers, gap_oneLine, lead_oneLine,
      print_oneLine (level + 1) x, printMembers_oneLine level ms, List.cons_append, List.nil_append,
      List.append_assoc]

end

mutual

theorem print_indented : ∀ (level : Nat) (j : Json), indented.print level j = j.printPretty level
  | _, null | _, bool _ | _, num _ | _, str _ | _, arr [] | _, obj [] | _, unreadable => by
    simp only [print, printPretty]
  | level, arr (x :: xs) => by
    simp only [print, printPretty, print_indented (level + 1) x, printItems_indented level xs]
    rfl
  | level, obj ((k, x) :: ms) => by
    simp only [print, printPretty, print_indented (level + 1) x, printMembers_indented level ms]
    simp only [indented, List.cons_append, List.nil_append, List.append_assoc]

theorem printItems_indented : ∀ (level : Nat) (xs : List Json),
    indented.printItems level xs = printPrettyItems level xs
  | _, [] => rfl
  | level, x :: xs => by
    simp only [printItems, printPrettyItems, print_indented (level + 1) x,
      printItems_indented level xs]
    rfl

theorem printMembers_indented : ∀ (level : Nat) (ms : List (String × Json)),
    indented.printMembers level ms = printPrettyMembers level ms
  | _, [] => rfl
  | level, (k, x) :: ms => by
    simp only [printMembers, printPrettyMembers, print_indented (level + 1) x,
      printMembers_indented level ms]
    simp only [indented, List.cons_append, List.nil_append, List.append_assoc]

end

end Layout

/-! ## Reading a layout -/

theorem skipSpace_cons {c : Char} (hc : isSpace c = false) (cs : List Char) :
    skipSpace (c :: cs) = c :: cs := by
  simp [skipSpace, hc]

theorem skipSpace_append {gap : List Char} (h : ∀ c ∈ gap, isSpace c = true) (cs : List Char) :
    skipSpace (gap ++ cs) = skipSpace cs := List.dropWhile_append_of_pos h

theorem Opens.append {cs : List Char} (h : Opens cs) (rest : List Char) : Opens (cs ++ rest) := by
  obtain ⟨c, cs, rfl, hc⟩ := h
  exact ⟨c, cs ++ rest, rfl, hc⟩

theorem opens_printString (s : String) : Opens (printString s) :=
  ⟨'"', _, rfl, rfl, by decide, by decide⟩

theorem opens_print {l : Layout} {room level : Nat} {j : Json} (h : Plain room j) :
    Opens (l.print level j) := by
  cases j with
  | num n =>
    cases n with
    | int n => exact opens_printInt n
    | double bits => simp [Plain] at h
  | bool b => cases b <;> exact ⟨_, _, rfl, rfl, by decide, by decide⟩
  | arr items => cases items <;> exact ⟨_, _, rfl, rfl, by decide, by decide⟩
  | obj members =>
    rcases members with _ | ⟨⟨k, x⟩, ms⟩ <;> exact ⟨_, _, rfl, rfl, by decide, by decide⟩
  | _ => exact ⟨_, _, rfl, rfl, by decide, by decide⟩

section Pieces

variable (l : Layout)

/-- What closes an array or an object may stand behind a gap. -/
theorem stops_gap (level : Nat) {c : Char} (hc : c = ']' ∨ c = '\x7d') (rest : List Char) :
    Stops (l.gap level ++ c :: rest) := by
  have hgap := l.isSpace_gap level
  cases hg : l.gap level with
  | nil => exact stops_cons (.inr (hc.imp_right .inl))
  | cons d gap =>
    rw [hg] at hgap
    exact stops_cons (.inr (.inr (.inr (hgap d List.mem_cons_self))))

theorem stops_printItems (level : Nat) (xs : List Json) (rest : List Char) :
    Stops (l.printItems level xs ++ rest) := by
  cases xs with
  | nil =>
    rw [Layout.printItems, List.append_assoc]
    exact stops_gap l level (.inl rfl) rest
  | cons x xs => exact stops_cons (.inl rfl)

theorem stops_printMembers (level : Nat) (ms : List (String × Json)) (rest : List Char) :
    Stops (l.printMembers level ms ++ rest) := by
  rcases ms with _ | ⟨⟨k, x⟩, ms⟩
  · rw [Layout.printMembers, List.append_assoc]
    exact stops_gap l level (.inr rfl) rest
  · exact stops_cons (.inl rfl)

theorem length_lt_printItems (level : Nat) (xs : List Json) :
    xs.length < (l.printItems level xs).length := by
  induction xs with
  | nil =>
    simp only [Layout.printItems, List.length_append, List.length_cons, List.length_nil]
    omega
  | cons x xs ih =>
    simp only [Layout.printItems, List.length_cons, List.length_append]
    omega

theorem length_lt_printMembers (level : Nat) (ms : List (String × Json)) :
    ms.length < (l.printMembers level ms).length := by
  induction ms with
  | nil =>
    simp only [Layout.printMembers, List.length_append, List.length_cons, List.length_nil]
    omega
  | cons m ms ih =>
    obtain ⟨k, x⟩ := m
    simp only [Layout.printMembers, List.length_cons, List.length_append]
    omega

theorem print_array (level : Nat) (x : Json) (xs : List Json) (rest : List Char) :
    l.print level (arr (x :: xs)) ++ rest =
      '[' :: (l.gap (level + 1) ++ (l.print (level + 1) x ++ (l.printItems level xs ++ rest))) := by
  simp [Layout.print]

theorem print_object (level : Nat) (k : String) (x : Json) (ms : List (String × Json))
    (rest : List Char) :
    l.print level (obj ((k, x) :: ms)) ++ rest =
      '\x7b' :: (l.gap (level + 1) ++ (printString k ++
        ':' :: (l.lead ++ (l.print (level + 1) x ++ (l.printMembers level ms ++ rest))))) := by
  simp [Layout.print]

theorem print_nextItem (level : Nat) (x : Json) (xs : List Json) (rest : List Char) :
    l.printItems level (x :: xs) ++ rest =
      ',' :: (l.gap (level + 1) ++ (l.print (level + 1) x ++ (l.printItems level xs ++ rest))) := by
  simp [Layout.printItems]

theorem print_nextMember (level : Nat) (k : String) (x : Json) (ms : List (String × Json))
    (rest : List Char) :
    l.printMembers level ((k, x) :: ms) ++ rest =
      ',' :: (l.gap (level + 1) ++ (printString k ++
        ':' :: (l.lead ++ (l.print (level + 1) x ++ (l.printMembers level ms ++ rest))))) := by
  simp [Layout.printMembers]

end Pieces

section Readers

variable {fuel depth : Nat}

/-- Blanks before a value do not count. -/
theorem value_append {gap : List Char} (h : ∀ c ∈ gap, isSpace c = true) (cs : List Char) :
    value fuel depth (gap ++ cs) = value fuel depth cs := by
  cases fuel with
  | zero => rfl
  | succ fuel => rw [value, value, skipSpace_append h]

/-- Blanks may stand before the key of a member and before its value. -/
theorem member_print (key : String) {x : Json} {gap lead cs rest : List Char}
    (hgap : ∀ c ∈ gap, isSpace c = true) (hlead : ∀ c ∈ lead, isSpace c = true)
    (h : value fuel depth cs = some (x, rest)) :
    member (value fuel depth) (gap ++ (printString key ++ ':' :: (lead ++ cs))) =
      some ((some key, x), rest) := by
  have hkey := string_print key.toList (':' :: (lead ++ cs))
  simp only [member, printString, List.cons_append, List.append_assoc, List.nil_append,
    skipSpace_append hgap, skipSpace_cons (show isSpace '"' = false from rfl), Option.bind_eq_bind,
    hkey, Option.bind_some, skipSpace_cons (show isSpace ':' = false from rfl), value_append hlead,
    h, Option.map_some, String.ofList_toList]
  rfl

/-- What opens neither an array nor an object is read as it is. -/
theorem value_scalar {c : Char} (cs : List Char) (hc : isSpace c = false) (ha : c ≠ '[')
    (ho : c ≠ '\x7b') : value (fuel + 1) depth (c :: cs) = scalar (c :: cs) := by
  rw [value, skipSpace_cons hc]
  split
  · next h => cases h; exact absurd rfl ha
  · next h => cases h; exact absurd rfl ho
  · rfl

theorem value_array {gap cs : List Char} (hgap : ∀ c ∈ gap, isSpace c = true) (hcs : Opens cs)
    {x : Json} {xs : List Json} {left rest : List Char}
    (hx : value fuel (depth + 1) cs = some (x, left))
    (hxs : moreItems (value fuel (depth + 1)) (left.length + 1) left = some (xs, rest)) :
    value (fuel + 1) depth ('[' :: (gap ++ cs)) = some (arrayAt (depth + 1) (x :: xs), rest) := by
  obtain ⟨c, tail, rfl, hc, hne, _⟩ := hcs
  rw [value, skipSpace_cons rfl]
  simp only [skipSpace_append hgap, skipSpace_cons hc]
  split
  · next h => cases h; exact absurd rfl hne
  · simp only [hx, Option.bind_eq_bind, Option.bind_some, hxs]; rfl

theorem value_object {gap cs : List Char} (hgap : ∀ c ∈ gap, isSpace c = true) (hcs : Opens cs)
    {m : Member} {ms : List Member} {left rest : List Char}
    (hm : member (value fuel (depth + 1)) cs = some (m, left))
    (hms : moreMembers (value fuel (depth + 1)) (left.length + 1) left = some (ms, rest)) :
    value (fuel + 1) depth ('\x7b' :: (gap ++ cs)) =
      some (objectAt (depth + 1) (m :: ms), rest) := by
  obtain ⟨c, tail, rfl, hc, _, hne⟩ := hcs
  rw [value, skipSpace_cons rfl]
  simp only [skipSpace_append hgap, skipSpace_cons hc]
  split
  · next h => cases h; exact absurd rfl hne
  · simp only [hm, Option.bind_eq_bind, Option.bind_some, hms]; rfl

end Readers

theorem objectAt_texts {depth : Nat} (h : depth ≤ maxDepth) (ms : List (String × Json)) :
    objectAt depth (ms.map fun m => (some m.1, m.2)) = obj ms := by
  have hm : (ms.map fun m => ((some m.1 : Option String), m.2)).mapM
      (fun m : Member => m.1.map fun key => (key, m.2)) = some ms := by
    induction ms with
    | nil => rfl
    | cons m ms ih => simp [ih]
  rw [objectAt, hm]
  exact if_pos h

section

variable {l : Layout}

mutual

/-- **A printed value is read off the front of what follows it.** Each level of nesting costs fuel
and is at least one character. -/
theorem value_print : ∀ {j : Json} {room fuel depth : Nat} (level : Nat) (rest : List Char),
    Plain room j → depth + room ≤ maxDepth → (l.print level j).length < fuel → Stops rest →
    value fuel depth (l.print level j ++ rest) = some (j, rest)
  | null, room, fuel + 1, depth, _, rest, _, _, _, _ => value_scalar _ rfl (by decide) (by decide)
  | bool true, room, fuel + 1, depth, _, rest, _, _, _, _ =>
    value_scalar _ rfl (by decide) (by decide)
  | bool false, room, fuel + 1, depth, _, rest, _, _, _, _ =>
    value_scalar _ rfl (by decide) (by decide)
  | str s, room, fuel + 1, depth, _, rest, _, _, _, _ => by
    have ht := string_print s.toList rest
    rw [Layout.print_str, printString, List.append_assoc, List.cons_append,
      value_scalar _ rfl (by decide) (by decide)]
    simp only [scalar, List.singleton_append, ht, Option.bind_eq_bind, Option.bind_some,
      Option.map_some, String.ofList_toList]
    rfl
  | num (.int n), room, fuel + 1, depth, _, rest, hn, _, _, hr => by
    have hs := scalar_printInt (by simpa only [Plain] using hn) hr
    obtain ⟨c, cs, hc, hspace, _⟩ := opens_printInt n
    rw [Layout.print_int]
    rw [hc, List.cons_append] at hs ⊢
    refine (value_scalar _ hspace (fun h => ?_) fun h => ?_).trans hs
    · subst h; cases hs
    · subst h; cases hs
  | arr [], room + 1, fuel + 1, depth, _, rest, _, hd, _, _ =>
    congrArg (fun j => some (j, rest)) (if_pos (show depth + 1 ≤ maxDepth by omega))
  | arr (x :: xs), room + 1, fuel + 1, depth, level, rest, hp, hd, hf, _ => by
    simp only [Plain, PlainItems] at hp
    simp only [Layout.print, List.length_cons, List.length_append] at hf
    have hd : depth + 1 + room ≤ maxDepth := by omega
    have hx := value_print (level + 1) (l.printItems level xs ++ rest) hp.1 hd
      (show (l.print (level + 1) x).length < fuel by omega) (stops_printItems l level xs rest)
    have hlen := length_lt_printItems l level xs
    have hxs := moreItems_print level (n := (l.printItems level xs ++ rest).length + 1)
      rest hp.2 hd (show (l.printItems level xs).length < fuel by omega)
      (by rw [List.length_append]; omega)
    rw [print_array, value_array (l.isSpace_gap _) ((opens_print hp.1).append _) hx hxs, arrayAt,
      if_pos (by omega)]
  | obj [], room + 1, fuel + 1, depth, _, rest, _, hd, _, _ =>
    congrArg (fun j => some (j, rest)) (objectAt_texts (show depth + 1 ≤ maxDepth by omega) [])
  | obj ((k, x) :: ms), room + 1, fuel + 1, depth, level, rest, hp, hd, hf, _ => by
    simp only [Plain, PlainMembers] at hp
    simp only [Layout.print, List.length_cons, List.length_append] at hf
    have hd : depth + 1 + room ≤ maxDepth := by omega
    have hx := value_print (level + 1) (l.printMembers level ms ++ rest) hp.1 hd
      (show (l.print (level + 1) x).length < fuel by omega) (stops_printMembers l level ms rest)
    have hm := member_print k (List.forall_mem_nil _) l.isSpace_lead hx
    have hlen := length_lt_printMembers l level ms
    have hms := moreMembers_print level
      (n := (l.printMembers level ms ++ rest).length + 1) rest hp.2 hd
      (show (l.printMembers level ms).length < fuel by omega) (by rw [List.length_append]; omega)
    rw [print_object, value_object (l.isSpace_gap _) ((opens_printString k).append _) hm hms,
      ← objectAt_texts (show depth + 1 ≤ maxDepth by omega) ((k, x) :: ms), List.map_cons]
  | unreadable, room, fuel, depth, _, rest, h, _, _, _ => by simp [Plain] at h
  | num (.double bits), room, fuel, depth, _, rest, h, _, _, _ => by simp [Plain] at h
  | arr items, 0, fuel, depth, _, rest, h, _, _, _ => by simp [Plain] at h
  | obj members, 0, fuel, depth, _, rest, h, _, _, _ => by simp [Plain] at h

theorem moreItems_print :
    ∀ {xs : List Json} {room fuel depth n : Nat} (level : Nat) (rest : List Char),
    PlainItems room xs → depth + room ≤ maxDepth → (l.printItems level xs).length < fuel →
    xs.length < n →
    moreItems (value fuel depth) n (l.printItems level xs ++ rest) = some (xs, rest)
  | [], room, fuel, depth, n + 1, level, rest, _, _, _, _ => by
    rw [Layout.printItems, List.append_assoc, moreItems, skipSpace_append (l.isSpace_gap level)]
    rfl
  | x :: xs, room, fuel, depth, n + 1, level, rest, hp, hd, hf, hn => by
    simp only [Layout.printItems, List.length_cons, List.length_append] at hf
    have hx := value_print (level + 1) (l.printItems level xs ++ rest) hp.1 hd
      (show (l.print (level + 1) x).length < fuel by omega) (stops_printItems l level xs rest)
    have hxs := moreItems_print level rest hp.2 hd
      (show (l.printItems level xs).length < fuel by omega) (Nat.lt_of_succ_lt_succ hn)
    rw [print_nextItem, moreItems, skipSpace_cons rfl]
    simp only [value_append (l.isSpace_gap _), hx, hxs, Option.bind_eq_bind, Option.bind_some]
    rfl

theorem moreMembers_print :
    ∀ {ms : List (String × Json)} {room fuel depth n : Nat} (level : Nat) (rest : List Char),
    PlainMembers room ms → depth + room ≤ maxDepth → (l.printMembers level ms).length < fuel →
    ms.length < n →
    moreMembers (value fuel depth) n (l.printMembers level ms ++ rest) =
      some (ms.map fun m => (some m.1, m.2), rest)
  | [], room, fuel, depth, n + 1, level, rest, _, _, _, _ => by
    rw [Layout.printMembers, List.append_assoc, moreMembers, skipSpace_append (l.isSpace_gap level)]
    rfl
  | (k, x) :: ms, room, fuel, depth, n + 1, level, rest, hp, hd, hf, hn => by
    simp only [Layout.printMembers, List.length_cons, List.length_append] at hf
    have hx := value_print (level + 1) (l.printMembers level ms ++ rest) hp.1 hd
      (show (l.print (level + 1) x).length < fuel by omega) (stops_printMembers l level ms rest)
    have hm := member_print k (l.isSpace_gap (level + 1)) l.isSpace_lead hx
    have hms := moreMembers_print level rest hp.2 hd
      (show (l.printMembers level ms).length < fuel by omega) (Nat.lt_of_succ_lt_succ hn)
    rw [print_nextMember, moreMembers, skipSpace_cons rfl]
    simp only [hm, hms, Option.bind_eq_bind, Option.bind_some]
    rfl

end

/-- The text of a plain value in any layout is read as that value. -/
theorem parse_print {j : Json} (h : Plain maxDepth j) :
    parse? (String.ofList (l.print 0 j)) = some j := by
  have hv : value ((l.print 0 j).length + 1) 0 (l.print 0 j ++ []) = some (j, []) :=
    value_print 0 [] h (by decide) (Nat.lt_succ_self _) stops_nil
  rw [List.append_nil] at hv
  rw [parse?, parseFront?, String.length_ofList, String.toList_ofList, hv]
  rfl

end

/-- **The text of a plain value is read as that value.** -/
theorem parse_toText {j : Json} (h : Plain maxDepth j) : parse? j.toText = some j := by
  have ht : j.toText = String.ofList (Layout.oneLine.print 0 j) := by
    rw [Layout.print_oneLine, toText]
  rw [ht, parse_print h]

/-- **So is its text over several lines.** -/
theorem parse_toPrettyText {j : Json} (h : Plain maxDepth j) : parse? j.toPrettyText = some j := by
  have ht : j.toPrettyText = String.ofList (Layout.indented.print 0 j) := by
    rw [Layout.print_indented, toPrettyText]
  rw [ht, parse_print h]

end TaskPipeline.Json
