import Mathlib.Data.String.Basic
import TaskPipeline.Json.Record
import TaskPipeline.Proofs.Json.RoundTrip

/-!
# Free-form values

The free-form reading sorts the members of an object and keeps the last of equal keys, so that
reading once more changes nothing (`canonical_canonical`). What the parser gives nests no deeper
than it allows and holds integers of 64 bits (`value_nests`). So a free-form value that was parsed
is plain unless it holds a double, and its text is read back as that value
(`canonical_parse_toText`).
-/

namespace TaskPipeline.Json

/-! ## Sorted members -/

/-- Members in increasing order of their keys, without repetition. -/
def Sorted (ms : List (String × Json)) : Prop := ms.Pairwise fun m n => m.1 < n.1

theorem mem_insertMember {k : String} {x : Json} {m : String × Json} :
    ∀ {ms : List (String × Json)}, m ∈ insertMember k x ms → m = (k, x) ∨ m ∈ ms
  | [], h => .inl (List.mem_singleton.mp h)
  | (l, y) :: ms, h => by
    rw [insertMember] at h
    split at h
    · exact List.mem_cons.mp h
    split at h
    · exact (List.mem_cons.mp h).imp_right (List.mem_cons_of_mem _)
    · rcases List.mem_cons.mp h with rfl | h
      · exact .inr List.mem_cons_self
      · exact (mem_insertMember h).imp_right (List.mem_cons_of_mem _)

theorem sorted_insertMember {k : String} {x : Json} :
    ∀ {ms : List (String × Json)}, Sorted ms → Sorted (insertMember k x ms)
  | [], _ => List.pairwise_singleton _ _
  | (l, y) :: ms, h => by
    obtain ⟨hl, hms⟩ := List.pairwise_cons.mp h
    rw [insertMember]
    split
    · next hlt =>
      refine List.pairwise_cons.mpr ⟨?_, h⟩
      intro m hm
      rcases List.mem_cons.mp hm with rfl | hm
      · exact hlt
      · exact lt_trans hlt (hl m hm)
    split
    · next heq => exact List.pairwise_cons.mpr ⟨fun m hm => heq ▸ hl m hm, hms⟩
    · next hlt hne =>
      refine List.pairwise_cons.mpr ⟨?_, sorted_insertMember hms⟩
      intro m hm
      rcases mem_insertMember hm with rfl | hm
      · exact lt_of_le_of_ne (not_lt.mp hlt) (Ne.symm hne)
      · exact hl m hm

/-- A key beyond all the others goes to the end. -/
theorem insertMember_last {k : String} {x : Json} :
    ∀ {ms : List (String × Json)}, (∀ m ∈ ms, m.1 < k) → insertMember k x ms = ms ++ [(k, x)]
  | [], _ => rfl
  | (l, y) :: ms, h => by
    obtain ⟨hl, hms⟩ := List.forall_mem_cons.mp h
    rw [insertMember, if_neg (lt_asymm hl), if_neg (ne_of_gt hl), insertMember_last hms,
      List.cons_append]

section SortMembers

variable {ms sorted : List (String × Json)}

theorem mem_foldl_insertMember {m : String × Json}
    (h : m ∈ ms.foldl (fun sorted m => insertMember m.1 m.2 sorted) sorted) :
    m ∈ sorted ∨ m ∈ ms := by
  induction ms generalizing sorted with
  | nil => exact .inl h
  | cons n ms ih =>
    rcases ih h with h | h
    · rcases mem_insertMember h with rfl | h
      · exact .inr List.mem_cons_self
      · exact .inl h
    · exact .inr (List.mem_cons_of_mem _ h)

theorem mem_sortMembers {m : String × Json} (h : m ∈ sortMembers ms) : m ∈ ms :=
  (mem_foldl_insertMember h).resolve_left List.not_mem_nil

theorem sorted_sortMembers (ms : List (String × Json)) : Sorted (sortMembers ms) := by
  have hfold : ∀ {sorted}, Sorted sorted →
      Sorted (ms.foldl (fun sorted m => insertMember m.1 m.2 sorted) sorted) := by
    induction ms with
    | nil => exact id
    | cons m ms ih => exact fun h => ih (sorted_insertMember h)
  exact hfold List.Pairwise.nil

theorem foldl_insertMember_of_sorted (h : Sorted (sorted ++ ms)) :
    ms.foldl (fun sorted m => insertMember m.1 m.2 sorted) sorted = sorted ++ ms := by
  induction ms generalizing sorted with
  | nil => rw [List.foldl_nil, List.append_nil]
  | cons m ms ih =>
    have hlast : ∀ n ∈ sorted, n.1 < m.1 := fun n hn =>
      (List.pairwise_append.mp h).2.2 n hn m List.mem_cons_self
    rw [List.append_cons] at h ⊢
    rw [List.foldl_cons, insertMember_last hlast, ih h]

/-- Members that are sorted already stay as they are. -/
theorem sortMembers_of_sorted (h : Sorted ms) : sortMembers ms = ms :=
  foldl_insertMember_of_sorted h

end SortMembers

/-! ## Reading once more -/

theorem canonicalItems_of_forall : ∀ {xs : List Json},
    (∀ x ∈ xs, canonical x = some x) → canonicalItems xs = some xs
  | [], _ => rfl
  | x :: xs, h => by
    obtain ⟨hx, hxs⟩ := List.forall_mem_cons.mp h
    rw [canonicalItems, hx, canonicalItems_of_forall hxs]
    rfl

theorem canonicalMembers_of_forall : ∀ {ms : List (String × Json)},
    (∀ m ∈ ms, canonical m.2 = some m.2) → canonicalMembers ms = some ms
  | [], _ => rfl
  | (k, x) :: ms, h => by
    obtain ⟨hx, hms⟩ := List.forall_mem_cons.mp h
    rw [canonicalMembers, hx, canonicalMembers_of_forall hms]
    rfl

theorem canonicalItems_cons {x : Json} {xs ys : List Json}
    (h : canonicalItems (x :: xs) = some ys) :
    ∃ y zs, canonical x = some y ∧ canonicalItems xs = some zs ∧ ys = y :: zs := by
  rw [canonicalItems] at h
  obtain ⟨y, hy, h⟩ := Option.bind_eq_some_iff.mp h
  obtain ⟨zs, hzs, h⟩ := Option.bind_eq_some_iff.mp h
  exact ⟨y, zs, hy, hzs, (Option.some.inj h).symm⟩

theorem canonicalMembers_cons {k : String} {x : Json} {ms ns : List (String × Json)}
    (h : canonicalMembers ((k, x) :: ms) = some ns) :
    ∃ y os, canonical x = some y ∧ canonicalMembers ms = some os ∧ ns = (k, y) :: os := by
  rw [canonicalMembers] at h
  obtain ⟨y, hy, h⟩ := Option.bind_eq_some_iff.mp h
  obtain ⟨os, hos, h⟩ := Option.bind_eq_some_iff.mp h
  exact ⟨y, os, hy, hos, (Option.some.inj h).symm⟩

mutual

/-- **The free-form reading of a value reads as itself.** -/
theorem canonical_canonical : ∀ {j c : Json}, canonical j = some c → canonical c = some c
  | null, _, rfl | bool _, _, rfl | num _, _, rfl | str _, _, rfl => rfl
  | arr items, _, h => by
    obtain ⟨ys, hys, rfl⟩ := Option.map_eq_some_iff.mp h
    rw [canonical, canonicalItems_of_forall (canonicalItems_canonical hys)]
    rfl
  | obj members, _, h => by
    obtain ⟨ns, hns, rfl⟩ := Option.map_eq_some_iff.mp h
    have hfixed := canonicalMembers_canonical hns
    rw [canonical, canonicalMembers_of_forall fun m hm => hfixed m (mem_sortMembers hm),
      Option.map_some, sortMembers_of_sorted (sorted_sortMembers ns)]

theorem canonicalItems_canonical : ∀ {xs ys : List Json}, canonicalItems xs = some ys →
    ∀ y ∈ ys, canonical y = some y
  | [], _, rfl => fun _ h => absurd h List.not_mem_nil
  | x :: xs, _, h => by
    obtain ⟨y, zs, hy, hzs, rfl⟩ := canonicalItems_cons h
    exact List.forall_mem_cons.mpr ⟨canonical_canonical hy, canonicalItems_canonical hzs⟩

theorem canonicalMembers_canonical : ∀ {ms ns : List (String × Json)},
    canonicalMembers ms = some ns → ∀ n ∈ ns, canonical n.2 = some n.2
  | [], _, rfl => fun _ h => absurd h List.not_mem_nil
  | (k, x) :: ms, _, h => by
    obtain ⟨y, os, hy, hos, rfl⟩ := canonicalMembers_cons h
    exact List.forall_mem_cons.mpr ⟨canonical_canonical hy, canonicalMembers_canonical hos⟩

end

/-! ## What the parser gives -/

mutual

/-- Integers of 64 bits, nesting at most `room` deep. Doubles and parts without a value may
occur. -/
def Nests : Nat → Json → Prop
  | _, num (.int n) => Fits n
  | 0, arr _ | 0, obj _ => False
  | room + 1, arr items => NestsItems room items
  | room + 1, obj members => NestsMembers room members
  | _, _ => True

def NestsItems (room : Nat) : List Json → Prop
  | [] => True
  | x :: xs => Nests room x ∧ NestsItems room xs

def NestsMembers (room : Nat) : List (String × Json) → Prop
  | [] => True
  | (_, x) :: ms => Nests room x ∧ NestsMembers room ms

end

theorem nestsItems_iff {room : Nat} : ∀ {xs : List Json},
    NestsItems room xs ↔ ∀ x ∈ xs, Nests room x
  | [] => by simp [NestsItems]
  | x :: xs => by rw [NestsItems, List.forall_mem_cons, nestsItems_iff]

theorem nestsMembers_iff {room : Nat} : ∀ {ms : List (String × Json)},
    NestsMembers room ms ↔ ∀ m ∈ ms, Nests room m.2
  | [] => by simp [NestsMembers]
  | (k, x) :: ms => by rw [NestsMembers, List.forall_mem_cons, nestsMembers_iff]

/-- The values that a reader gives have the property. -/
def Reader.Gives (item : Reader) (P : Json → Prop) : Prop :=
  ∀ {cs x rest}, item cs = some (x, rest) → P x

section Parser

variable {P : Json → Prop} {item : Reader} {room depth : Nat}

theorem moreItems_gives (hitem : item.Gives P) : ∀ {n : Nat} {cs rest : List Char}
    {xs : List Json}, moreItems item n cs = some (xs, rest) → ∀ x ∈ xs, P x
  | n + 1, cs, rest, xs, h => by
    rw [moreItems] at h
    split at h
    · cases h
      exact fun _ hx => absurd hx List.not_mem_nil
    · obtain ⟨⟨x, after⟩, hx, h⟩ := Option.bind_eq_some_iff.mp h
      obtain ⟨⟨ys, left⟩, hys, h⟩ := Option.bind_eq_some_iff.mp h
      cases h
      exact List.forall_mem_cons.mpr ⟨hitem hx, moreItems_gives hitem hys⟩
    · cases h

theorem member_gives (hitem : item.Gives P) {cs rest : List Char} {m : Member}
    (h : member item cs = some (m, rest)) : P m.2 := by
  unfold member at h
  split at h
  · obtain ⟨⟨key, after⟩, _, h⟩ := Option.bind_eq_some_iff.mp h
    dsimp only at h
    split at h
    · obtain ⟨⟨x, left⟩, hx, h⟩ := Option.bind_eq_some_iff.mp h
      cases h
      exact hitem hx
    · cases h
  · cases h

theorem moreMembers_gives (hitem : item.Gives P) : ∀ {n : Nat} {cs rest : List Char}
    {ms : List Member}, moreMembers item n cs = some (ms, rest) → ∀ m ∈ ms, P m.2
  | n + 1, cs, rest, ms, h => by
    rw [moreMembers] at h
    split at h
    · cases h
      exact fun _ hm => absurd hm List.not_mem_nil
    · obtain ⟨⟨m, after⟩, hm, h⟩ := Option.bind_eq_some_iff.mp h
      obtain ⟨⟨ns, left⟩, hns, h⟩ := Option.bind_eq_some_iff.mp h
      cases h
      exact List.forall_mem_cons.mpr ⟨member_gives hitem hm, moreMembers_gives hitem hns⟩
    · cases h

theorem exists_of_mapM {α β : Type} {f : α → Option β} : ∀ {xs : List α} {ys : List β},
    xs.mapM f = some ys → ∀ y ∈ ys, ∃ x ∈ xs, f x = some y
  | [], ys, h => by
    cases h
    exact fun _ hy => absurd hy List.not_mem_nil
  | x :: xs, ys, h => by
    rw [List.mapM_cons] at h
    obtain ⟨y, hy, h⟩ := Option.bind_eq_some_iff.mp h
    obtain ⟨zs, hzs, h⟩ := Option.bind_eq_some_iff.mp h
    cases h
    refine List.forall_mem_cons.mpr ⟨⟨x, List.mem_cons_self, hy⟩, fun z hz => ?_⟩
    obtain ⟨w, hw, hf⟩ := exists_of_mapM hzs z hz
    exact ⟨w, List.mem_cons_of_mem _ hw, hf⟩

theorem nests_arrayAt {items : List Json} (hd : maxDepth ≤ room + depth)
    (h : ∀ {inner}, maxDepth ≤ inner + (depth + 1) → ∀ x ∈ items, Nests inner x) :
    Nests room (arrayAt (depth + 1) items) := by
  unfold arrayAt
  split
  · cases room with
    | zero => omega
    | succ room => exact nestsItems_iff.mpr (h (by omega))
  · simp [Nests]

theorem nests_objectAt {members : List Member} (hd : maxDepth ≤ room + depth)
    (h : ∀ {inner}, maxDepth ≤ inner + (depth + 1) → ∀ m ∈ members, Nests inner m.2) :
    Nests room (objectAt (depth + 1) members) := by
  unfold objectAt
  split
  · next ms hms =>
    split
    · cases room with
      | zero => omega
      | succ room =>
        refine nestsMembers_iff.mpr fun m hm => ?_
        obtain ⟨n, hn, hkey⟩ := exists_of_mapM hms m hm
        obtain ⟨key, _, rfl⟩ := Option.map_eq_some_iff.mp hkey
        exact h (by omega) n hn
    · simp [Nests]
  · simp [Nests]

theorem fits_of_number {w : Written} {n : Int} (h : w.number = some (.int n)) : Fits n := by
  unfold Written.number at h
  dsimp only at h
  split at h
  · next hpos =>
    cases h
    exact ⟨by have := Int64.toInt_minValue; omega, by exact_mod_cast hpos.2.2⟩
  split at h
  · next hneg =>
    cases h
    have hmin := Int64.toInt_minValue
    refine ⟨by omega, by simp only [UInt64.size]; omega⟩
  · obtain ⟨bits, _, hbits⟩ := Option.map_eq_some_iff.mp h
    cases hbits

theorem nests_number (w : Written) : Nests room ((w.number.map num).getD unreadable) := by
  cases hw : w.number with
  | none => simp [Nests]
  | some n =>
    cases n with
    | double bits => simp [Nests]
    | int n => simpa [Nests] using fits_of_number hw

theorem scalar_nests : Reader.Gives scalar (Nests room) := by
  intro cs x rest h
  unfold scalar at h
  split at h
  · cases h; simp [Nests]
  · cases h; simp [Nests]
  · cases h; simp [Nests]
  · obtain ⟨⟨text, left⟩, _, h⟩ := Option.bind_eq_some_iff.mp h
    cases h
    cases text <;> simp [Nests]
  · obtain ⟨⟨w, left⟩, _, h⟩ := Option.bind_eq_some_iff.mp h
    cases h
    exact nests_number w

/-- **What the parser gives nests no deeper than it allows**, and its integers have 64 bits. -/
theorem value_nests : ∀ {fuel depth room : Nat}, maxDepth ≤ room + depth →
    Reader.Gives (value fuel depth) (Nests room)
  | 0, _, _, _ => fun h => by cases h
  | fuel + 1, depth, room, hd => by
    have hitem : ∀ {inner}, maxDepth ≤ inner + (depth + 1) →
        Reader.Gives (value fuel (depth + 1)) (Nests inner) := value_nests
    intro h
    unfold value at h
    split at h
    · split at h
      · cases h
        exact nests_arrayAt hd fun _ _ hx => absurd hx List.not_mem_nil
      · obtain ⟨⟨x, after⟩, hx, h⟩ := Option.bind_eq_some_iff.mp h
        obtain ⟨⟨xs, left⟩, hxs, h⟩ := Option.bind_eq_some_iff.mp h
        cases h
        exact nests_arrayAt hd fun hinner =>
          List.forall_mem_cons.mpr ⟨hitem hinner hx, moreItems_gives (hitem hinner) hxs⟩
    · split at h
      · cases h
        exact nests_objectAt hd fun _ _ hm => absurd hm List.not_mem_nil
      · obtain ⟨⟨m, after⟩, hm, h⟩ := Option.bind_eq_some_iff.mp h
        obtain ⟨⟨ms, left⟩, hms, h⟩ := Option.bind_eq_some_iff.mp h
        cases h
        exact nests_objectAt hd fun hinner => List.forall_mem_cons.mpr
          ⟨member_gives (hitem hinner) hm, moreMembers_gives (hitem hinner) hms⟩
    · exact scalar_nests h

end Parser

/-! ## The fields of a record -/

theorem mem_of_get_given {s : Slots} {field : String} {x : Json} (h : s.get field = .given x) :
    (field, .given x) ∈ s := by
  unfold Slots.get at h
  cases hl : s.lookup field with
  | none => rw [hl] at h; cases h
  | some slot =>
    rw [hl, Option.getD_some] at h
    subst h
    obtain ⟨before, after, rfl, -⟩ := List.lookup_eq_some_iff.mp hl
    exact List.mem_append_right _ List.mem_cons_self

theorem given_of_slotOfMembers {members : List (String × Json)} {f field : String} {x : Json}
    (h : slotOfMembers members f = some (field, .given x)) : ∃ m ∈ members, m.2 = x := by
  unfold slotOfMembers at h
  split at h
  · cases h
  · next k y hfilter =>
    cases h
    have hmem : (k, x) ∈ members.filter fun m => m.1 == f := by
      rw [hfilter]
      exact List.mem_singleton_self _
    exact ⟨_, List.mem_of_mem_filter hmem, rfl⟩
  · cases h

theorem given_of_slotsOfItems {field : String} {x : Json} : ∀ {fields : List String}
    {items : List Json} {s : Slots}, slotsOfItems fields items = some s →
    (field, .given x) ∈ s → x ∈ items
  | [], [], _, h, hm => by
    cases h
    exact absurd hm List.not_mem_nil
  | f :: fs, [], _, h, hm => by
    obtain ⟨s, hs, rfl⟩ := Option.map_eq_some_iff.mp h
    rcases List.mem_cons.mp hm with hm | hm
    · cases hm
    · exact given_of_slotsOfItems hs hm
  | f :: fs, y :: ys, _, h, hm => by
    obtain ⟨s, hs, rfl⟩ := Option.map_eq_some_iff.mp h
    rcases List.mem_cons.mp hm with hm | hm
    · cases hm
      exact List.mem_cons_self
    · exact List.mem_cons_of_mem _ (given_of_slotsOfItems hs hm)

/-- The fields of a record are one level deeper than the record. -/
theorem nests_slots {room : Nat} {j : Json} (hj : Nests (room + 1) j) {fields : List String}
    {s : Slots} (hs : j.slots fields = some s) {field : String} {x : Json}
    (hx : s.get field = .given x) : Nests room x := by
  have hmem : (field, Slot.given x) ∈ s := mem_of_get_given hx
  cases j with
  | obj members =>
    obtain ⟨f, _, hf⟩ := exists_of_mapM hs _ hmem
    obtain ⟨m, hm, rfl⟩ := given_of_slotOfMembers hf
    exact nestsMembers_iff.mp hj m hm
  | arr items => exact nestsItems_iff.mp hj x (given_of_slotsOfItems hs hmem)
  | _ => cases hs

/-! ## Values without doubles -/

mutual

/-- No number in the value is a double. -/
def isExact : Json → Bool
  | num (.double _) => false
  | arr items => itemsExact items
  | obj members => membersExact members
  | _ => true

def itemsExact : List Json → Bool
  | [] => true
  | x :: xs => isExact x && itemsExact xs

def membersExact : List (String × Json) → Bool
  | [] => true
  | (_, x) :: ms => isExact x && membersExact ms

end

theorem itemsExact_iff : ∀ {xs : List Json},
    itemsExact xs = true ↔ ∀ x ∈ xs, x.isExact = true
  | [] => by simp [itemsExact]
  | x :: xs => by rw [itemsExact, Bool.and_eq_true, List.forall_mem_cons, itemsExact_iff]

theorem membersExact_iff : ∀ {ms : List (String × Json)},
    membersExact ms = true ↔ ∀ m ∈ ms, m.2.isExact = true
  | [] => by simp [membersExact]
  | (k, x) :: ms => by rw [membersExact, Bool.and_eq_true, List.forall_mem_cons, membersExact_iff]

theorem plainItems_iff {room : Nat} : ∀ {xs : List Json},
    PlainItems room xs ↔ ∀ x ∈ xs, Plain room x
  | [] => by simp [PlainItems]
  | x :: xs => by rw [PlainItems, List.forall_mem_cons, plainItems_iff]

theorem plainMembers_iff {room : Nat} : ∀ {ms : List (String × Json)},
    PlainMembers room ms ↔ ∀ m ∈ ms, Plain room m.2
  | [] => by simp [PlainMembers]
  | (k, x) :: ms => by rw [PlainMembers, List.forall_mem_cons, plainMembers_iff]

mutual

/-- The free-form reading of what nests no deeper than it may is plain, unless it holds a double. -/
theorem plain_of_canonical : ∀ {j c : Json} {room : Nat}, canonical j = some c → Nests room j →
    c.isExact = true → Plain room c
  | null, _, _, rfl, _, _ | bool _, _, _, rfl, _, _ | str _, _, _, rfl, _, _ => by simp [Plain]
  | num (.int n), _, _, rfl, h, _ => by simpa [Plain, Nests] using h
  | num (.double bits), _, _, rfl, _, he => by simp [isExact] at he
  | arr items, _, room + 1, h, hn, he => by
    obtain ⟨ys, hys, rfl⟩ := Option.map_eq_some_iff.mp h
    exact plainItems_iff.mpr (plainItems_of_canonical hys hn (itemsExact_iff.mp he))
  | obj members, _, room + 1, h, hn, he => by
    obtain ⟨ns, hns, rfl⟩ := Option.map_eq_some_iff.mp h
    refine plainMembers_iff.mpr fun m hm => ?_
    exact plainMembers_of_canonical hns hn m (mem_sortMembers hm) (membersExact_iff.mp he m hm)
  | arr _, _, 0, _, hn, _ | obj _, _, 0, _, hn, _ => by simp [Nests] at hn

theorem plainItems_of_canonical : ∀ {xs ys : List Json} {room : Nat},
    canonicalItems xs = some ys → NestsItems room xs → (∀ y ∈ ys, y.isExact = true) →
    ∀ y ∈ ys, Plain room y
  | [], _, _, rfl, _, _ => fun _ h => absurd h List.not_mem_nil
  | x :: xs, _, room, h, hn, he => by
    obtain ⟨y, zs, hy, hzs, rfl⟩ := canonicalItems_cons h
    obtain ⟨hey, hezs⟩ := List.forall_mem_cons.mp he
    exact List.forall_mem_cons.mpr
      ⟨plain_of_canonical hy hn.1 hey, plainItems_of_canonical hzs hn.2 hezs⟩

/-- Of equal keys only the last counts, so the members are looked at one by one. -/
theorem plainMembers_of_canonical : ∀ {ms ns : List (String × Json)} {room : Nat},
    canonicalMembers ms = some ns → NestsMembers room ms →
    ∀ n ∈ ns, n.2.isExact = true → Plain room n.2
  | [], _, _, rfl, _ => fun _ h => absurd h List.not_mem_nil
  | (k, x) :: ms, _, room, h, hn => by
    obtain ⟨y, os, hy, hos, rfl⟩ := canonicalMembers_cons h
    exact List.forall_mem_cons.mpr
      ⟨plain_of_canonical hy hn.1, plainMembers_of_canonical hos hn.2⟩

end

/-- **A free-form value without doubles is read back from its text.** -/
theorem canonical_parse_toText {j c : Json} (h : canonical j = some c) (hn : Nests maxDepth j)
    (he : c.isExact = true) : (parse? c.toText).bind canonical = some c := by
  rw [parse_toText (plain_of_canonical h hn he), Option.bind_some, canonical_canonical h]

end TaskPipeline.Json
