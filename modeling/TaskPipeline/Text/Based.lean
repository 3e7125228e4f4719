import TaskPipeline.Text.Numeral

/-!
Whole numbers at the front of a text, in decimal, octal or hexadecimal digits: a zero in front makes
a number octal and `0x` makes it hexadecimal.
-/

namespace TaskPipeline.Text

/-- The value of a digit to a base up to 36. -/
def digitTo? (base : Nat) (c : Char) : Option Nat :=
  let n : Option Nat :=
    if c.isDigit then some (c.toNat - '0'.toNat)
    else if 'a' ≤ c ∧ c ≤ 'z' then some (c.toNat - 'a'.toNat + 10)
    else if 'A' ≤ c ∧ c ≤ 'Z' then some (c.toNat - 'A'.toNat + 10)
    else none
  n.filter (· < base)

/-- The value of the digits in front, and what follows them. -/
def frontDigits (base : Nat) (value : Nat) : List Char → Nat × List Char
  | [] => (value, [])
  | c :: cs =>
    match digitTo? base c with
    | some d => frontDigits base (value * base + d) cs
    | none => (value, c :: cs)

/-- The number in front without a sign, and what follows it; none if there is no digit. -/
def frontMagnitude? (cs : List Char) : Option (Nat × List Char) :=
  let hexadecimal (rest : List Char) : Nat × List Char :=
    if (rest.head?.bind (digitTo? 16)).isSome then frontDigits 16 0 rest else (0, cs.drop 1)
  match cs with
  | '0' :: 'x' :: rest | '0' :: 'X' :: rest => some (hexadecimal rest)
  | '0' :: _ => some (frontDigits 8 0 cs)
  | c :: _ => if c.isDigit then some (frontDigits 10 0 cs) else none
  | [] => none

def isSpace (c : Char) : Bool := c == ' ' || (9 ≤ c.toNat && c.toNat ≤ 13)

/-- The number in front, behind blanks and a sign perhaps, and what follows it. -/
def frontInteger? (cs : List Char) : Option (Int × List Char) :=
  match cs.dropWhile isSpace with
  | '-' :: rest => (frontMagnitude? rest).map fun (n, left) => (-↑n, left)
  | '+' :: rest => (frontMagnitude? rest).map fun (n, left) => (↑n, left)
  | rest => (frontMagnitude? rest).map fun (n, left) => (↑n, left)

/-- The nearest number of 64 signed bits. -/
def clampInt64 (n : Int) : Int64 :=
  Int64.ofInt (max Int64.minValue.toInt (min n Int64.maxValue.toInt))

/-- A number is one of 64 signed bits. -/
def fitsInt64 (n : Int) : Bool := (clampInt64 n).toInt == n

end TaskPipeline.Text
