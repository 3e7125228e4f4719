/-!
Letters up to case. Simple case folding identifies an ASCII letter with its other case and with
at most one letter beyond ASCII: the long s with `s`, the kelvin sign with `k`.
-/

namespace TaskPipeline.Text

/-- The ASCII character that a character folds to, itself where there is none. -/
def fold (c : Char) : Char :=
  if c = '\u017F' then 's' else if c = '\u212A' then 'k' else c.toLower

/-- Equal up to case. -/
def sameLetter (c d : Char) : Bool := fold c == fold d

theorem sameLetter_refl (c : Char) : sameLetter c c = true := beq_self_eq_true _

theorem sameLetter_comm (c d : Char) : sameLetter c d = sameLetter d c := by
  simp only [sameLetter]
  exact BEq.comm

end TaskPipeline.Text
