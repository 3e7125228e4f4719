/-!
UTF-8. `decode` reads any bytes: each longest prefix of a character that cannot be completed
becomes one replacement character, and so does each byte that starts none.
-/

namespace TaskPipeline.Text.Utf8

/-- What stands for bytes that form no character. -/
def replacement : Char := '\uFFFD'

/-- A byte that continues a character. -/
def isContinuation (b : UInt8) : Bool := b &&& 0xC0 == 0x80

/-- How many bytes the character has that starts with `b`, and the range of its second byte.
The narrower ranges exclude overlong forms, surrogates and code points beyond the last plane. -/
def lead (b : UInt8) : Option (Nat × UInt8 × UInt8) :=
  if b < 0xC2 then none
  else if b < 0xE0 then some (2, 0x80, 0xBF)
  else if b == 0xE0 then some (3, 0xA0, 0xBF)
  else if b == 0xED then some (3, 0x80, 0x9F)
  else if b < 0xF0 then some (3, 0x80, 0xBF)
  else if b == 0xF0 then some (4, 0x90, 0xBF)
  else if b < 0xF4 then some (4, 0x80, 0xBF)
  else if b == 0xF4 then some (4, 0x80, 0x8F)
  else none

/-- The bits a continuation byte adds to a code point. -/
def extend (n : Nat) (b : UInt8) : Nat := n * 64 + (b.toNat - 0x80)

/-- Takes one character off bytes that begin with `b`: the character and what is left. -/
def next (b : UInt8) (rest : List UInt8) : Char × List UInt8 :=
  if b < 0x80 then (Char.ofNat b.toNat, rest)
  else
    match lead b, rest with
    | some (size, low, high), b₂ :: rest₂ =>
      if low ≤ b₂ ∧ b₂ ≤ high then
        if size = 2 then (Char.ofNat (extend (b.toNat - 0xC0) b₂), rest₂)
        else
          match rest₂ with
          | b₃ :: rest₃ =>
            if isContinuation b₃ then
              if size = 3 then (Char.ofNat (extend (extend (b.toNat - 0xE0) b₂) b₃), rest₃)
              else
                match rest₃ with
                | b₄ :: rest₄ =>
                  if isContinuation b₄ then
                    (Char.ofNat (extend (extend (extend (b.toNat - 0xF0) b₂) b₃) b₄), rest₄)
                  else (replacement, rest₃)
                | [] => (replacement, [])
            else (replacement, rest₂)
          | [] => (replacement, [])
      else (replacement, rest)
    | _, _ => (replacement, rest)

theorem next_length (b : UInt8) (rest : List UInt8) : (next b rest).2.length ≤ rest.length := by
  unfold next
  repeat' split
  all_goals simp_all
  all_goals omega

/-- Decodes all bytes onto the characters already read, last first. -/
def decodeOnto (acc : List Char) : List UInt8 → List Char
  | [] => acc.reverse
  | b :: rest => decodeOnto ((next b rest).1 :: acc) (next b rest).2
termination_by bytes => bytes.length
decreasing_by
  have := next_length b rest
  simp only [List.length_cons]
  omega

/-- The text of any bytes. -/
def decode (bytes : List UInt8) : List Char := decodeOnto [] bytes

/-- The bytes of a text. -/
def encode (cs : List Char) : List UInt8 := cs.flatMap String.utf8EncodeChar

end TaskPipeline.Text.Utf8
