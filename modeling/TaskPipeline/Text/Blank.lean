/-!
White space and trimming. A text is trimmed at both ends of every character that has the Unicode
property `White_Space`.
-/

namespace TaskPipeline.Text

/-- Unicode white space. -/
def isBlank (c : Char) : Bool :=
  let n := c.toNat
  (9 ≤ n && n ≤ 13) || n == 0x20 || n == 0x85 || n == 0xA0 || n == 0x1680 ||
    (0x2000 ≤ n && n ≤ 0x200A) || n == 0x2028 || n == 0x2029 || n == 0x202F || n == 0x205F ||
    n == 0x3000

theorem isBlank_of_isWhitespace {c : Char} (h : c.isWhitespace = true) : isBlank c = true := by
  simp only [Char.isWhitespace, Bool.or_eq_true, decide_eq_true_eq] at h
  rcases h with ((h | h) | h) | h <;> subst h <;> decide

/-- The characters without the blanks at both ends. -/
def trimChars (cs : List Char) : List Char :=
  ((cs.dropWhile isBlank).reverse.dropWhile isBlank).reverse

/-- A text without the blanks at both ends. -/
def trim (s : String) : String := String.ofList (trimChars s.toList)

/-- A text of blanks only. -/
def isBlankText (s : String) : Bool := s.toList.all isBlank

/-- The most characters an excerpt keeps. -/
def excerptLimit : Nat := 400

/-- The end of a text, trimmed: errors tend to stand last. A cut is marked by three dots. This is
`failure_excerpt`. -/
def excerpt (raw : String) : String :=
  let cs := trimChars raw.toList
  if cs.length ≤ excerptLimit then String.ofList cs
  else String.ofList ('.' :: '.' :: '.' :: cs.drop (cs.length - excerptLimit))

end TaskPipeline.Text
