import TaskPipeline.Text.Based

/-!
Fractions in decimal places: reading a decimal numeral as an exact fraction, rounding a fraction to
a number of binary digits, and writing it with so many places, half a unit going to the even
neighbour.
-/

namespace TaskPipeline.Text

/-- A fraction without a sign; the lower number is not zero. -/
structure Fraction where
  upper : Nat
  lower : Nat := 1
  deriving DecidableEq, Repr

/-- The nearest whole number to a quotient; a half goes to the even neighbour. -/
def roundQuotient (a b : Nat) : Nat :=
  let q := a / b
  let r := a % b
  if 2 * r < b ∨ (2 * r = b ∧ q % 2 = 0) then q else q + 1

/-- A number to a power of ten, and another divided by it where the power is negative. -/
def Fraction.timesTen (f : Fraction) (power : Int) : Fraction :=
  ⟨f.upper * Nat.pow 10 power.toNat, f.lower * Nat.pow 10 (-power).toNat⟩

def Fraction.timesTwo (f : Fraction) (power : Int) : Fraction :=
  ⟨f.upper * Nat.pow 2 power.toNat, f.lower * Nat.pow 2 (-power).toNat⟩

/-- The fraction with so many binary digits that is nearest, no finer than a certain place. -/
def Fraction.toBinary (digits : Nat) (finest : Int) (f : Fraction) : Fraction :=
  if f.upper = 0 then f
  else
    let guess : Int := ↑(Nat.log2 f.upper) - ↑(Nat.log2 f.lower) - ↑digits
    let place := max guess finest
    let shifted := f.timesTwo (-place)
    let place := if shifted.upper / shifted.lower ≥ Nat.pow 2 digits then place + 1 else place
    let shifted := f.timesTwo (-place)
    (Fraction.timesTwo ⟨roundQuotient shifted.upper shifted.lower, 1⟩ place)

/-- What a numeral for a measured quantity stands for. -/
inductive Measure where
  | finite (negative : Bool) (size : Fraction)
  | infinite (negative : Bool)
  | noNumber (negative : Bool)
  deriving DecidableEq, Repr

/-- Powers of ten beyond this one are as good as infinite or zero. -/
def largestPower : Nat := 6000

/-- The exponent in front, and what follows it; without digits there is none. -/
def frontExponent (cs : List Char) : Int × List Char :=
  match cs with
  | e :: rest =>
    if e = 'e' ∨ e = 'E' then
      let (negative, ds) := match rest with
        | '-' :: ds => (true, ds)
        | '+' :: ds => (false, ds)
        | ds => (false, ds)
      let digits := ds.takeWhile Char.isDigit
      if digits.isEmpty then (0, cs)
      else
        let n := min (digitsValue digits) largestPower
        (if negative then -↑n else ↑n, ds.drop digits.length)
    else (0, cs)
  | [] => (0, [])

def startsLike (word : String) (cs : List Char) : Bool :=
  word.toList.isPrefixOf (cs.map Char.toLower)

/-- The measure in front, and what follows it; none if there is none. -/
def frontMeasure? (cs : List Char) : Option (Measure × List Char) :=
  let cs := cs.dropWhile isSpace
  let (negative, cs) := match cs with
    | '-' :: rest => (true, rest)
    | '+' :: rest => (false, rest)
    | rest => (false, rest)
  if startsLike "infinity" cs then some (.infinite negative, cs.drop 8)
  else if startsLike "inf" cs then some (.infinite negative, cs.drop 3)
  else if startsLike "nan" cs then some (.noNumber negative, cs.drop 3)
  else if startsLike "0x" cs ∧ ((cs.drop 2).head?.bind (digitTo? 16)).isSome then
    let (n, rest) := frontDigits 16 0 (cs.drop 2)
    some (.finite negative ⟨n, 1⟩, rest)
  else
    let whole := cs.takeWhile Char.isDigit
    let rest := cs.drop whole.length
    let (places, rest) := match rest with
      | '.' :: more => (more.takeWhile Char.isDigit, more.dropWhile Char.isDigit)
      | _ => ([], rest)
    if whole.isEmpty ∧ places.isEmpty then none
    else
      let (power, rest) := frontExponent rest
      let size : Fraction := ⟨digitsValue (whole ++ places), 1⟩
      some (.finite negative (size.timesTen (power - ↑places.length)), rest)

/-! ## Writing -/

/-- The digits of a number, at least so many. -/
def paddedDigits (count : Nat) (n : Nat) : List Char :=
  let ds := Nat.toDigits 10 n
  List.replicate (count - ds.length) '0' ++ ds

/-- Digits with a point before the last so many. The point may be written without places. -/
def pointed (places : Nat) (keepPoint : Bool) (n : Nat) : List Char :=
  let ds := paddedDigits (places + 1) n
  let front := ds.take (ds.length - places)
  if places = 0 then front ++ (if keepPoint then ['.'] else [])
  else front ++ '.' :: ds.drop (ds.length - places)

/-- A fraction with so many places. -/
def Fraction.fixed (places : Nat) (keepPoint : Bool) (f : Fraction) : List Char :=
  let scaled := f.timesTen places
  pointed places keepPoint (roundQuotient scaled.upper scaled.lower)

/-- The digits of a fraction with one of them before the point, and its power of ten. -/
def Fraction.scientific (places : Nat) (f : Fraction) : Nat × Int :=
  if f.upper = 0 then (0, 0)
  else
    let size (n : Nat) : Int := (Nat.toDigits 10 n).length
    let guess := size f.upper - size f.lower
    let atLeast (power : Int) : Bool :=
      let g := f.timesTen (-power)
      g.upper ≥ g.lower
    let power := if atLeast guess then guess else guess - 1
    let scaled := f.timesTen (↑places - power)
    let n := roundQuotient scaled.upper scaled.lower
    if n ≥ Nat.pow 10 (places + 1) then (n / 10, power + 1) else (n, power)

/-- A power of ten, with a sign and at least two digits. -/
def powerText (power : Int) : List Char :=
  'e' :: (if power < 0 then '-' else '+') :: paddedDigits 2 power.natAbs

/-- A text without the zeros at its end, and without a point there. -/
def withoutEndZeros (cs : List Char) : List Char :=
  if cs.contains '.' then
    let kept := (cs.reverse.dropWhile (· == '0'))
    (match kept with
      | '.' :: rest => rest
      | rest => rest).reverse
  else cs

/-- A fraction with one digit before the point and a power of ten. -/
def Fraction.exponential (places : Nat) (keepPoint : Bool) (f : Fraction) : List Char :=
  let (n, power) := f.scientific places
  pointed places keepPoint n ++ powerText power

/-- A fraction with so many digits in all, in the shorter of the two ways. -/
def Fraction.general (digits : Nat) (keepZeros : Bool) (f : Fraction) : List Char :=
  let digits := max digits 1
  let (n, power) := f.scientific (digits - 1)
  let strip (cs : List Char) := if keepZeros then cs else withoutEndZeros cs
  if -4 ≤ power ∧ power < ↑digits then
    strip (f.fixed (↑digits - 1 - power).toNat keepZeros)
  else strip (pointed (digits - 1) keepZeros n) ++ powerText power

end TaskPipeline.Text
