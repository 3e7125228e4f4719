/-!
Whole numbers in decimal digits, as settings, queries and columns hold them.
-/

namespace TaskPipeline.Text

/-- The value of a run of digits. -/
def digitsValue (ds : List Char) : Nat :=
  ds.foldl (fun n c => n * 10 + (c.toNat - '0'.toNat)) 0

/-- The number that digits spell, if they are digits and at least one. -/
def digits? (ds : List Char) : Option Nat :=
  if ds.isEmpty ∨ !ds.all Char.isDigit then none else some (digitsValue ds)

/-- A number from zero up to, but excluding, a bound; a plus sign may stand in front. -/
def natural? (bound : Nat) (s : String) : Option Nat :=
  let digits := match s.toList with
    | '+' :: ds => ds
    | ds => ds
  (digits? digits).filter (· < bound)

/-- A number of 64 signed bits; a sign may stand in front. -/
def int64? (s : String) : Option Int64 :=
  let value : Option Int := match s.toList with
    | '+' :: ds => (digits? ds).map (↑·)
    | '-' :: ds => (digits? ds).map (-↑·)
    | ds => (digits? ds).map (↑·)
  (value.filter fun n => Int64.minValue.toInt ≤ n ∧ n ≤ Int64.maxValue.toInt).map Int64.ofInt

end TaskPipeline.Text
