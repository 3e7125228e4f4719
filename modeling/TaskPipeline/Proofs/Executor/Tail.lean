import TaskPipeline.Executor.Command
import TaskPipeline.Proofs.Text.Utf8

/-!
# What is kept of a long output

Of an output beyond the limit the last bytes are kept, from the beginning of a character on. To find
that place the bytes are read one by one; `outputTail?` does so by their indices, and would answer
nothing if an index lay beyond the end. None does, whatever the bytes are, and of an output that is
a text the part that is kept is a text as well (`outputTail_clean`).
-/

namespace TaskPipeline

open Text.Utf8

/-! ## By indices -/

/-- Goes on from an index as long as the byte there continues a character. -/
def boundary? (bytes : List UInt8) (i : Nat) : Option Nat :=
  if i < bytes.length then
    match bytes[i]? with
    | none => none
    | some b => if isContinuation b then boundary? bytes (i + 1) else some i
  else some i
termination_by bytes.length - i

/-- The bytes from an index on. It may be the end, but not lie beyond it. -/
def bytesFrom? (bytes : List UInt8) (i : Nat) : Option (List UInt8) :=
  if i ≤ bytes.length then some (bytes.drop i) else none

/-- `outputTail` by indices, each of which has to lie within the bytes. -/
def outputTail? (bytes : List UInt8) : Option String :=
  if bytes.length ≤ outputLimit then some (String.ofList (decode bytes))
  else do
    let start ← boundary? bytes (bytes.length - outputLimit)
    let kept ← bytesFrom? bytes start
    return truncationMark ++ String.ofList (decode kept)

variable {bytes : List UInt8}

/-- The search ends within the bytes, behind those that continue a character. -/
theorem exists_boundary {i : Nat} (h : i ≤ bytes.length) :
    ∃ j, boundary? bytes i = some j ∧ j ≤ bytes.length ∧
      bytes.drop j = (bytes.drop i).dropWhile isContinuation := by
  have hread : ∀ {i b}, bytes[i]? = some b → bytes.drop i = b :: bytes.drop (i + 1) := by
    intro i b hb
    rw [List.drop_eq_getElem?_toList_append, hb]
    rfl
  fun_induction boundary? bytes i with
  | case1 i hlt hnone =>
    rw [List.getElem?_eq_getElem hlt] at hnone
    cases hnone
  | case2 i hlt b hb hcont ih =>
    obtain ⟨j, hj, hle, hdrop⟩ := ih hlt
    exact ⟨j, hj, hle, by rw [hdrop, hread hb, List.dropWhile_cons_of_pos hcont]⟩
  | case3 i hlt b hb hcont =>
    exact ⟨i, rfl, h, by rw [hread hb, List.dropWhile_cons_of_neg hcont]⟩
  | case4 i hend =>
    exact ⟨i, rfl, h, by rw [List.drop_of_length_le (Nat.not_lt.mp hend), List.dropWhile_nil]⟩

/-- No index lies beyond the end, whatever the bytes are. -/
theorem outputTail?_eq (bytes : List UInt8) : outputTail? bytes = some (outputTail bytes) := by
  unfold outputTail?
  split
  · next h => rw [outputTail_of_le h]
  · next h =>
    obtain ⟨j, hj, hle, hdrop⟩ := exists_boundary (Nat.sub_le bytes.length outputLimit)
    rw [outputTail_of_lt (Nat.not_le.mp h), hj, ← hdrop]
    show (bytesFrom? bytes j >>= _) = _
    rw [bytesFrom?, if_pos hle]
    rfl

/-! ## Of a text -/

/-- What is kept of the bytes of a long text are the last characters of the text. -/
theorem exists_outputTail {cs : List Char} (h : outputLimit < (encode cs).length) :
    ∃ kept, kept <:+ cs ∧ outputTail (encode cs) = truncationMark ++ String.ofList kept ∧
      (encode kept).length ≤ outputLimit ∧ outputLimit ≤ (encode kept).length + 3 := by
  obtain ⟨kept, hkept, hcut, hle⟩ := exists_cut cs (Nat.sub_le (encode cs).length outputLimit)
  have hmost : (encode kept).length ≤ outputLimit := by
    rw [← hcut]
    refine Nat.le_trans (List.dropWhile_suffix _).length_le ?_
    rw [List.length_drop]
    omega
  exact ⟨kept, hkept, by rw [outputTail_of_lt h, hcut, decode_encode], hmost, by omega⟩

/-- **The end of an output is kept clean.** Of an output that is a text in UTF-8 all is kept if it
has at most 64000 bytes. Otherwise a mark comes before whole characters that the text ends with, of
at most 64000 and at least 63997 bytes; so no replacement is among them that is not in the text. Of
any bytes at all, text or not, the end is found without an index beyond it. -/
theorem outputTail_clean :
    (∀ cs, (encode cs).length ≤ 64000 → outputTail (encode cs) = String.ofList cs) ∧
    (∀ cs, 64000 < (encode cs).length → ∃ kept, kept <:+ cs ∧
      outputTail (encode cs) = "[truncated]..." ++ String.ofList kept ∧
      (encode kept).length ≤ 64000 ∧ 63997 ≤ (encode kept).length) ∧
    ∀ bytes, outputTail? bytes = some (outputTail bytes) := by
  refine ⟨fun cs h => ?_, fun cs h => ?_, outputTail?_eq⟩
  · rw [outputTail_of_le h, decode_encode]
  · obtain ⟨kept, hkept, htail, hmost, hleast⟩ := exists_outputTail h
    exact ⟨kept, hkept, htail, hmost, Nat.le_of_add_le_add_right (b := 3) hleast⟩

/-- A cut inside of a character leaves out all of it: 64002 bytes, of which 63999 are kept. -/
theorem outputTail_clean_euros :
    (encode (List.replicate 21334 '€')).length = 64002 ∧
    outputTail (encode (List.replicate 21334 '€')) =
      "[truncated]..." ++ String.ofList (List.replicate 21333 '€') := by
  have hlength : ∀ n, (encode (List.replicate n '€')).length = 3 * n := by
    intro n
    induction n with
    | zero => rfl
    | succ n ih =>
      rw [List.replicate_succ, encode_cons, List.length_append, ih, Nat.mul_succ, Nat.add_comm]
      rfl
  refine ⟨hlength 21334, ?_⟩
  obtain ⟨kept, hkept, htail, hmost, hleast⟩ :=
    outputTail_clean.2.1 (List.replicate 21334 '€') (by rw [hlength]; decide)
  obtain ⟨_, heq⟩ := List.suffix_replicate_iff.mp hkept
  rw [heq, hlength] at hmost hleast
  rw [htail, heq, show kept.length = 21333 by omega]

end TaskPipeline
