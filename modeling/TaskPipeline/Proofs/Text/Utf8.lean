import TaskPipeline.Text.Utf8

/-!
# Characters in bytes

The bytes of a character are read as that character, whatever follows (`next_encodeChar`), so the
bytes of a text are read as the text (`decode_encode`). Of the bytes of a character all but the
first continue it. So the bytes of a text that is cut anywhere begin, after at most three bytes that
continue a character, with a whole one (`exists_cut`).
-/

namespace TaskPipeline.Text.Utf8

variable {b b₂ b₃ b₄ : UInt8}

/-! ## Single bytes -/

theorem isContinuation_iff : isContinuation b = true ↔ 0x80 ≤ b.toNat ∧ b.toNat < 0xC0 := by
  have hbits : ∀ n < 256, n &&& 0xC0 = 0x80 ↔ 0x80 ≤ n ∧ n < 0xC0 := by decide +kernel
  rw [isContinuation, beq_iff_eq, ← UInt8.toNat_inj, UInt8.toNat_and]
  exact hbits b.toNat b.toNat_lt

theorem not_ascii (h : 0x80 ≤ b.toNat) : ¬b < 0x80 := by
  rw [UInt8.lt_iff_toNat_lt, Nat.not_lt]
  exact h

theorem lead_two (h : 0xC2 ≤ b.toNat ∧ b.toNat < 0xE0) : lead b = some (2, 0x80, 0xBF) := by
  simp only [lead, UInt8.lt_iff_toNat_lt, beq_iff_eq, ← UInt8.toNat_inj, UInt8.reduceToNat]
  rw [if_neg (by omega), if_pos (by omega)]

/-- Three bytes neither spell what two can nor a surrogate. -/
theorem lead_three (h : 0xE0 ≤ b.toNat ∧ b.toNat < 0xF0) : lead b =
    some (3, if b.toNat = 0xE0 then 0xA0 else 0x80, if b.toNat = 0xED then 0x9F else 0xBF) := by
  simp only [lead, UInt8.lt_iff_toNat_lt, beq_iff_eq, ← UInt8.toNat_inj, UInt8.reduceToNat]
  rw [if_neg (by omega), if_neg (by omega)]
  split
  · simp_all
  · split
    · simp_all
    · rw [if_pos (by omega)]

/-- Four bytes neither spell what three can nor go beyond the last plane. -/
theorem lead_four (h : 0xF0 ≤ b.toNat ∧ b.toNat < 0xF5) : lead b =
    some (4, if b.toNat = 0xF0 then 0x90 else 0x80, if b.toNat = 0xF4 then 0x8F else 0xBF) := by
  simp only [lead, UInt8.lt_iff_toNat_lt, beq_iff_eq, ← UInt8.toNat_inj, UInt8.reduceToNat]
  rw [if_neg (by omega), if_neg (by omega), if_neg (by omega), if_neg (by omega),
    if_neg (by omega)]
  split
  · simp_all
  · split
    · rw [if_neg (by omega)]
    · rw [if_pos (by omega), if_pos (by omega)]

/-! ## Reading a character -/

theorem next_one (h : b.toNat < 0x80) (rest : List UInt8) :
    next b rest = (Char.ofNat b.toNat, rest) :=
  if_pos (UInt8.lt_iff_toNat_lt.mpr h)

theorem next_two (h : 0xC2 ≤ b.toNat ∧ b.toNat < 0xE0) (h₂ : isContinuation b₂ = true)
    (rest : List UInt8) :
    next b (b₂ :: rest) = (Char.ofNat (extend (b.toNat - 0xC0) b₂), rest) := by
  rw [isContinuation_iff] at h₂
  have hrange : 0x80 ≤ b₂ ∧ b₂ ≤ 0xBF := by
    simp only [UInt8.le_iff_toNat_le, UInt8.reduceToNat]
    omega
  unfold next
  simp only [if_neg (not_ascii (b := b) (by omega)), lead_two h, if_pos hrange, if_true]

theorem next_three (h : 0xE0 ≤ b.toNat ∧ b.toNat < 0xF0) (h₂ : isContinuation b₂ = true)
    (h₃ : isContinuation b₃ = true) (hleast : b.toNat = 0xE0 → 0xA0 ≤ b₂.toNat)
    (hgap : b.toNat = 0xED → b₂.toNat < 0xA0) (rest : List UInt8) :
    next b (b₂ :: b₃ :: rest) =
      (Char.ofNat (extend (extend (b.toNat - 0xE0) b₂) b₃), rest) := by
  rw [isContinuation_iff] at h₂
  have hrange : (if b.toNat = 0xE0 then 0xA0 else 0x80 : UInt8) ≤ b₂ ∧
      b₂ ≤ if b.toNat = 0xED then 0x9F else 0xBF := by
    constructor <;> split <;> simp only [UInt8.le_iff_toNat_le, UInt8.reduceToNat] <;> omega
  unfold next
  simp only [if_neg (not_ascii (b := b) (by omega)), lead_three h, if_pos hrange, h₃, if_true]
  rfl

theorem next_four (h : 0xF0 ≤ b.toNat ∧ b.toNat < 0xF5) (h₂ : isContinuation b₂ = true)
    (h₃ : isContinuation b₃ = true) (h₄ : isContinuation b₄ = true)
    (hleast : b.toNat = 0xF0 → 0x90 ≤ b₂.toNat) (hlast : b.toNat = 0xF4 → b₂.toNat < 0x90)
    (rest : List UInt8) :
    next b (b₂ :: b₃ :: b₄ :: rest) =
      (Char.ofNat (extend (extend (extend (b.toNat - 0xF0) b₂) b₃) b₄), rest) := by
  rw [isContinuation_iff] at h₂
  have hrange : (if b.toNat = 0xF0 then 0x90 else 0x80 : UInt8) ≤ b₂ ∧
      b₂ ≤ if b.toNat = 0xF4 then 0x8F else 0xBF := by
    constructor <;> split <;> simp only [UInt8.le_iff_toNat_le, UInt8.reduceToNat] <;> omega
  unfold next
  simp only [if_neg (not_ascii (b := b) (by omega)), lead_four h, if_pos hrange, h₃, h₄, if_true]
  rfl

/-! ## The bytes of a character -/

/-- The byte that continues a character with the last six bits of a number. -/
theorem isContinuation_ofNat (n : Nat) : isContinuation (.ofNat (n % 64 + 128)) = true := by
  rw [isContinuation_iff, UInt8.toNat_ofNat']
  omega

theorem extend_ofNat (m n : Nat) : extend m (.ofNat (n % 64 + 128)) = m * 64 + n % 64 := by
  have hbyte : (UInt8.ofNat (n % 64 + 128)).toNat = (n % 64 + 128) % 2 ^ 8 := UInt8.toNat_ofNat'
  unfold extend
  omega

/-- **The bytes of a character are read as that character**, whatever follows. -/
theorem next_encodeChar (c : Char) (rest : List UInt8) :
    ∃ b bs, String.utf8EncodeChar c = b :: bs ∧ next b (bs ++ rest) = (c, rest) := by
  have hvalid : c.toNat < 0xD800 ∨ 0xDFFF < c.toNat ∧ c.toNat < 0x110000 := c.valid
  have hread : ∀ n, n = c.toNat → (Char.ofNat n, rest) = (c, rest) := fun n hn => by
    rw [hn, Char.ofNat_toNat]
  rw [String.utf8EncodeChar.eq_1, show c.val.toNat = c.toNat from rfl]
  generalize c.toNat = n at hvalid hread
  by_cases h₁ : n ≤ 0x7F
  · rw [if_pos h₁]
    refine ⟨_, _, rfl, (next_one ?_ rest).trans (hread _ ?_)⟩
    all_goals rw [UInt8.toNat_ofNat']; omega
  by_cases h₂ : n ≤ 0x7FF
  · rw [if_neg h₁, if_pos h₂]
    refine ⟨_, _, rfl, (next_two ?_ (isContinuation_ofNat n) rest).trans (hread _ ?_)⟩
    · rw [UInt8.toNat_ofNat']
      omega
    · rw [extend_ofNat, UInt8.toNat_ofNat']
      omega
  by_cases h₃ : n ≤ 0xFFFF
  · rw [if_neg h₁, if_neg h₂, if_pos h₃]
    refine ⟨_, _, rfl, (next_three ?_ (isContinuation_ofNat (n / 64)) (isContinuation_ofNat n)
      ?_ ?_ rest).trans (hread _ ?_)⟩
    · rw [UInt8.toNat_ofNat']
      omega
    · rw [UInt8.toNat_ofNat', UInt8.toNat_ofNat']
      omega
    · rw [UInt8.toNat_ofNat', UInt8.toNat_ofNat']
      omega
    · rw [extend_ofNat, extend_ofNat, UInt8.toNat_ofNat']
      omega
  · rw [if_neg h₁, if_neg h₂, if_neg h₃]
    refine ⟨_, _, rfl, (next_four ?_ (isContinuation_ofNat (n / 4096))
      (isContinuation_ofNat (n / 64)) (isContinuation_ofNat n) ?_ ?_ rest).trans (hread _ ?_)⟩
    · rw [UInt8.toNat_ofNat']
      omega
    · rw [UInt8.toNat_ofNat', UInt8.toNat_ofNat']
      omega
    · rw [UInt8.toNat_ofNat', UInt8.toNat_ofNat']
      omega
    · rw [extend_ofNat, extend_ofNat, extend_ofNat, UInt8.toNat_ofNat']
      omega

/-- The first byte of a character continues none, and the others, at most three, continue it. -/
theorem encodeChar_shape (c : Char) : ∃ b bs, String.utf8EncodeChar c = b :: bs ∧
    isContinuation b = false ∧ (∀ x ∈ bs, isContinuation x = true) ∧ bs.length ≤ 3 := by
  have hfirst : ∀ n, (n < 0x80 ∨ 0xC0 ≤ n) → n < 256 → isContinuation (.ofNat n) = false := by
    intro n hn hlt
    rw [Bool.eq_false_iff, ne_eq, isContinuation_iff, UInt8.toNat_ofNat']
    omega
  have hvalid : c.toNat < 0xD800 ∨ 0xDFFF < c.toNat ∧ c.toNat < 0x110000 := c.valid
  rw [String.utf8EncodeChar.eq_1, show c.val.toNat = c.toNat from rfl]
  have hnone : ∀ x ∈ ([] : List UInt8), isContinuation x = true := fun _ h => nomatch h
  have hcons : ∀ n {bs : List UInt8}, (∀ x ∈ bs, isContinuation x = true) →
      ∀ x ∈ .ofNat (n % 64 + 128) :: bs, isContinuation x = true := fun n bs hbs =>
    List.forall_mem_cons.mpr ⟨isContinuation_ofNat n, hbs⟩
  generalize c.toNat = n at hvalid
  split
  · exact ⟨_, _, rfl, hfirst _ (by omega) (by omega), hnone, Nat.zero_le 3⟩
  split
  · exact ⟨_, _, rfl, hfirst _ (by omega) (by omega), hcons n hnone, Nat.le_add_left 1 2⟩
  split
  · exact ⟨_, _, rfl, hfirst _ (by omega) (by omega), hcons (n / 64) (hcons n hnone),
      Nat.le_add_left 2 1⟩
  · exact ⟨_, _, rfl, hfirst _ (by omega) (by omega),
      hcons (n / 4096) (hcons (n / 64) (hcons n hnone)), Nat.le_refl 3⟩

/-! ## The bytes of a text -/

@[simp] theorem encode_nil : encode [] = [] := rfl

theorem encode_cons (c : Char) (cs : List Char) :
    encode (c :: cs) = String.utf8EncodeChar c ++ encode cs := rfl

theorem decodeOnto_encode (acc cs : List Char) :
    decodeOnto acc (encode cs) = acc.reverse ++ cs := by
  induction cs generalizing acc with
  | nil => rw [encode_nil, decodeOnto, List.append_nil]
  | cons c cs ih =>
    obtain ⟨b, bs, hbytes, hnext⟩ := next_encodeChar c (encode cs)
    rw [encode_cons, hbytes, List.cons_append, decodeOnto, hnext, ih, List.reverse_cons,
      List.append_assoc, List.singleton_append]

/-- **The bytes of a text are read as the text.** -/
theorem decode_encode (cs : List Char) : decode (encode cs) = cs := decodeOnto_encode [] cs

/-- The bytes of a text begin with a whole character. -/
theorem dropWhile_encode (cs : List Char) :
    (encode cs).dropWhile isContinuation = encode cs := by
  cases cs with
  | nil => rfl
  | cons c cs =>
    obtain ⟨b, bs, hbytes, hb, _⟩ := encodeChar_shape c
    rw [encode_cons, hbytes, List.cons_append, List.dropWhile_cons_of_neg (by rw [hb]; decide)]

/-- **A text cut anywhere in its bytes goes on with whole characters** after at most three bytes. -/
theorem exists_cut (cs : List Char) {n : Nat} (hn : n ≤ (encode cs).length) :
    ∃ kept, kept <:+ cs ∧ ((encode cs).drop n).dropWhile isContinuation = encode kept ∧
      (encode cs).length ≤ n + (encode kept).length + 3 := by
  induction cs generalizing n with
  | nil =>
    obtain rfl : n = 0 := Nat.le_zero.mp hn
    exact ⟨[], List.suffix_rfl, rfl, by simp⟩
  | cons c cs ih =>
    obtain ⟨b, bs, hbytes, _, hbs, hlength⟩ := encodeChar_shape c
    have henc : encode (c :: cs) = b :: bs ++ encode cs := by rw [encode_cons, hbytes]
    rcases Nat.eq_zero_or_pos n with rfl | hpos
    · exact ⟨c :: cs, List.suffix_rfl, dropWhile_encode _, by omega⟩
    by_cases hin : n ≤ bs.length
    · -- The cut is inside of the first character, of which only continuing bytes are left.
      refine ⟨cs, List.suffix_cons c cs, ?_, ?_⟩
      · have hdrop : (encode (c :: cs)).drop n = bs.drop (n - 1) ++ encode cs := by
          obtain ⟨m, rfl⟩ : ∃ m, n = m + 1 := ⟨n - 1, by omega⟩
          rw [henc, List.cons_append, List.drop_succ_cons,
            List.drop_append_of_le_length (by omega), Nat.add_sub_cancel]
        rw [hdrop, List.dropWhile_append_of_pos fun x hx => hbs x (List.mem_of_mem_drop hx),
          dropWhile_encode]
      · rw [henc, List.cons_append, List.length_cons, List.length_append]
        omega
    · have hlen : (encode (c :: cs)).length = bs.length + 1 + (encode cs).length := by
        rw [henc, List.length_append, List.length_cons]
      obtain ⟨kept, hkept, hdrop, hle⟩ := ih (n := n - (bs.length + 1)) (by omega)
      refine ⟨kept, hkept.trans (List.suffix_cons c cs), ?_, by omega⟩
      rw [henc, List.drop_append, List.drop_of_length_le (by rw [List.length_cons]; omega),
        List.nil_append, List.length_cons, hdrop]

end TaskPipeline.Text.Utf8
