import TaskPipeline.Text.Utf8

/-!
Raw texts: the texts that programs exchange. Every character of a raw text stands for one byte, so
that lengths count bytes and any bytes at all are a text.
-/

namespace TaskPipeline.Host

/-- The raw text of some bytes. -/
def textOf (bs : List UInt8) : String := String.ofList (bs.map fun b => Char.ofNat b.toNat)

/-- The bytes of a raw text. -/
def bytesOf (s : String) : List UInt8 := s.toList.map fun c => UInt8.ofNat c.toNat

/-- The raw text of a text. -/
def rawOf (s : String) : String := textOf (Text.Utf8.encode s.toList)

theorem bytesOf_textOf (bs : List UInt8) : bytesOf (textOf bs) = bs := by
  have h (b : UInt8) : UInt8.ofNat (Char.ofNat b.toNat).toNat = b := by
    have hb : b.toNat.isValidChar := Or.inl (Nat.lt_trans b.toNat_lt (by decide))
    have hc : (Char.ofNat b.toNat).toNat = b.toNat := by
      rw [Char.ofNat, dif_pos hb]
      rfl
    rw [hc, UInt8.ofNat_toNat]
  simp [bytesOf, textOf, Function.comp_def, h]

end TaskPipeline.Host
