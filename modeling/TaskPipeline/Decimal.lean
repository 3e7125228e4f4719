import TaskPipeline.Text.Numeral

/-!
Decimal text of doubles. Writing uses the fewest digits that read back as the same double, and of
those the nearest; reading scales a 64-bit significand by one power of ten.
-/

namespace TaskPipeline.Decimal

/-! ## Writing -/

/-- The places at which a decimal is written: positional while its point lies within these
bounds, scientific beyond. -/
structure Layout where
  /-- The point may lie this many digits after the first one. -/
  maxPoint : Int
  /-- The point may lie this many digits before the first one, exclusive. -/
  minPoint : Int

/-- Positional up to sixteen places before the point and five zeros behind it. -/
def layout : Layout := ⟨16, -5⟩

/-- The fraction has 52 bits: the first significand with an implied bit. -/
def hiddenBit : Nat := 4503599627370496

/-- The bits of the fraction. -/
def fractionField (bits : UInt64) : Nat := bits.toNat % hiddenBit

/-- The eleven bits of the exponent. -/
def exponentField (bits : UInt64) : Nat := bits.toNat / hiddenBit % 2048

/-- A finite double as `significand * 2 ^ exponent`. -/
def significand (bits : UInt64) : Nat :=
  if exponentField bits = 0 then fractionField bits else fractionField bits + hiddenBit

def exponent (bits : UInt64) : Int :=
  max (exponentField bits) 1 - (1075 : Int)

def isNegative (bits : UInt64) : Bool := bits.toNat / 2048 / hiddenBit == 1

/-- The reals that round to a positive double, as fractions over one denominator: the least, the
double itself and the greatest, and whether the ends belong. -/
structure Interval where
  low : Nat
  mid : Nat
  high : Nat
  den : Nat
  closed : Bool

def interval (bits : UInt64) : Interval :=
  let m := significand bits
  let e := exponent bits - 2
  let lowGap := if m = hiddenBit ∧ exponentField bits > 1 then 1 else 2
  let scale := Nat.pow 2 e.toNat
  ⟨(4 * m - lowGap) * scale, 4 * m * scale, (4 * m + 2) * scale, Nat.pow 2 (-e).toNat, m % 2 == 0⟩

/-- The power of ten of a decimal grid, as a fraction. -/
def pow10 (k : Int) : Nat × Nat := (Nat.pow 10 k.toNat, Nat.pow 10 (-k).toNat)

/-- The place of the first digit of `num / den`, searched from a guess above. -/
def firstPlace (num den : Nat) : Nat → Int → Int
  | 0, k => k
  | fuel + 1, k =>
    let (up, down) := pow10 k
    if num * down < up * den then firstPlace num den fuel (k - 1) else k

/-- `d * 10 ^ k` lies in the interval. -/
def Interval.holds (i : Interval) (d : Nat) (k : Int) : Bool :=
  let (up, down) := pow10 k
  let x := d * up * i.den
  if i.closed then i.low * down ≤ x && x ≤ i.high * down
  else i.low * down < x && x < i.high * down

/-- Twice the distance of `d * 10 ^ k` from the middle, scaled. -/
def Interval.distance (i : Interval) (d : Nat) (k : Int) : Nat :=
  let (up, down) := pow10 k
  let x := d * up * i.den
  let y := i.mid * down
  (x - y) + (y - x)

/-- The digits of the shortest decimal in the interval, tried on ever finer grids. -/
def shortestOn (i : Interval) (place : Int) : Nat → Nat → Nat × Int
  | 0, n => (i.mid / i.den, place + 1 - n)
  | fuel + 1, n =>
    let k := place + 1 - n
    let (up, down) := pow10 k
    let d := i.mid * down / (up * i.den)
    match i.holds d k, i.holds (d + 1) k with
    | true, true =>
      let a := i.distance d k
      let b := i.distance (d + 1) k
      (if a < b then d else if b < a then d + 1 else if d % 2 = 0 then d else d + 1, k)
    | true, false => (d, k)
    | false, true => (d + 1, k)
    | false, false => shortestOn i place fuel (n + 1)

/-- Moves zeros at the end of the digits into the exponent. -/
def stripZeros : Nat → Nat → Int → Nat × Int
  | 0, d, k => (d, k)
  | fuel + 1, d, k => if d % 10 = 0 ∧ d ≠ 0 then stripZeros fuel (d / 10) (k + 1) else (d, k)

/-- The shortest decimal of a positive double: `digits * 10 ^ power`. -/
def shortest (bits : UInt64) : Nat × Int :=
  let i := interval bits
  let (d, k) := shortestOn i (firstPlace i.mid i.den 700 310) 17 1
  stripZeros 20 d k

def printExponent (e : Int) : List Char :=
  match e with
  | .ofNat n => 'e' :: Nat.toDigits 10 n
  | .negSucc n => 'e' :: '-' :: Nat.toDigits 10 (n + 1)

/-- The text of a finite double. -/
def print (bits : UInt64) : List Char :=
  let sign := if isNegative bits then ['-'] else []
  if significand bits = 0 then sign ++ ['0', '.', '0']
  else
    let (d, k) := shortest bits
    let digits := Nat.toDigits 10 d
    let point := digits.length + k
    let body :=
      if 0 ≤ k ∧ point ≤ layout.maxPoint then digits ++ List.replicate k.toNat '0' ++ ['.', '0']
      else if 0 < point ∧ point ≤ layout.maxPoint then
        digits.take point.toNat ++ '.' :: digits.drop point.toNat
      else if layout.minPoint < point ∧ point ≤ 0 then
        '0' :: '.' :: List.replicate (-point).toNat '0' ++ digits
      else
        match digits with
        | [c] => c :: printExponent (point - 1)
        | c :: rest => c :: '.' :: rest ++ printExponent (point - 1)
        | [] => []
    sign ++ body

/-- The exponent field has its greatest value: an infinity, or no number. -/
def isSpecial (bits : UInt64) : Bool := exponentField bits == 2047

/-- The digits of a finite double without an exponent; a whole number has no point. -/
def plainDigits (bits : UInt64) : List Char :=
  if significand bits = 0 then ['0']
  else
    let (d, k) := shortest bits
    let digits := Nat.toDigits 10 d
    let point := digits.length + k
    if 0 ≤ k then digits ++ List.replicate k.toNat '0'
    else if 0 < point then digits.take point.toNat ++ '.' :: digits.drop point.toNat
    else '0' :: '.' :: List.replicate (-point).toNat '0' ++ digits

/-- The text of a double without an exponent. -/
def plain (bits : UInt64) : String :=
  let sign := if isNegative bits then "-" else ""
  if !isSpecial bits then sign ++ String.ofList (plainDigits bits)
  else if fractionField bits = 0 then sign ++ "inf"
  else "NaN"

/-! ## Reading -/

/-- Scales a double by a power of ten; none if that overflows. Powers beyond the table of exact
steps are divided out in steps of `10 ^ 308`. -/
def scale (f : Float) (power : Int) : Nat → Option Float
  | 0 => some f
  | fuel + 1 =>
    if power.natAbs ≤ 308 then
      let p := Float.ofScientific 1 false power.natAbs
      if 0 ≤ power then
        let g := f * p
        if g.isInf then none else some g
      else some (f / p)
    else if f == 0.0 then some f
    else if 0 ≤ power then none
    else scale (f / Float.ofScientific 1 false 308) (power + 308) fuel

/-- The double nearest to a significand times a power of ten, up to the rounding of each step. -/
def read (negative : Bool) (significand : UInt64) (power : Int) : Option UInt64 :=
  (scale significand.toFloat power (power.natAbs / 308 + 2)).map fun f =>
    (if negative then -f else f).toBits

/-- The double nearest to `n * 10 ^ power`, an infinity beyond the greatest double. -/
def nearest (n : Nat) (power : Int) : UInt64 :=
  let point := (Nat.toDigits 10 n).length + power
  if n = 0 ∨ point < -330 then 0
  else if point > 310 then 0x7FF0000000000000
  else (Float.ofScientific n (decide (power < 0)) power.natAbs).toBits

/-- The exponent that a text holds: a letter, a sign perhaps, and digits. -/
def exponent? : List Char → Option Int
  | [] => some 0
  | e :: rest =>
    if e = 'e' ∨ e = 'E' then
      match rest with
      | '+' :: ds => (Text.digits? ds).map (↑·)
      | '-' :: ds => (Text.digits? ds).map (-↑·)
      | ds => (Text.digits? ds).map (↑·)
    else none

/-- The double nearest to a number in digits: with a point among, before or after them, and
perhaps an exponent. -/
def ofDigits? (cs : List Char) : Option UInt64 :=
  let (whole, rest) := (cs.takeWhile Char.isDigit, cs.dropWhile Char.isDigit)
  let (fraction, rest) := match rest with
    | '.' :: more => (more.takeWhile Char.isDigit, more.dropWhile Char.isDigit)
    | _ => ([], rest)
  if whole.isEmpty ∧ fraction.isEmpty then none
  else
    (exponent? rest).map fun e =>
      nearest (Text.digitsValue (whole ++ fraction)) (e - fraction.length)

/-- The magnitude that a text without a sign holds: a word or digits. -/
def magnitude? (cs : List Char) : Option UInt64 :=
  let word := String.ofList (cs.map Char.toLower)
  if word = "inf" ∨ word = "infinity" then some 0x7FF0000000000000
  else if word = "nan" then some 0x7FF8000000000000
  else ofDigits? cs

/-- Reads what may have a sign in front. -/
def signed? (read : List Char → Option UInt64) : List Char → Option UInt64
  | '+' :: cs => read cs
  | '-' :: cs => (read cs).map (· ||| 0x8000000000000000)
  | cs => read cs

/-- The double nearest to the number that a text holds. -/
def ofText? (s : String) : Option UInt64 := signed? magnitude? s.toList

/-- The whole number nearest to a double, a half away from zero, held within bounds: from zero up
to, but excluding, `bound`. What is no number counts as zero. -/
def toNatWithin (bound : Nat) (bits : UInt64) : Nat :=
  if isSpecial bits ∧ fractionField bits ≠ 0 ∨ isNegative bits then 0
  else if isSpecial bits then bound - 1
  else
    let e := exponent bits
    let n :=
      if 0 ≤ e then significand bits * Nat.pow 2 e.toNat
      else (2 * significand bits + Nat.pow 2 (-e).toNat) / Nat.pow 2 ((-e).toNat + 1)
    min n (bound - 1)

/-- The whole number that a double is, if it is one. -/
def whole? (bits : UInt64) : Option Int :=
  let e := exponent bits
  let unit := Nat.pow 2 (-e).toNat
  let sign : Int := if isNegative bits then -1 else 1
  if isSpecial bits ∨ significand bits % unit ≠ 0 then none
  else some (sign * (significand bits * Nat.pow 2 e.toNat / unit : Nat))

/-- So many bits stand behind the point in the finest double. -/
def finestPlace : Nat := 1074

/-- A double as a multiple of the finest one. An infinity lies beyond all finite doubles. -/
def multiple (bits : UInt64) : Int :=
  let n := significand bits * Nat.pow 2 (exponent bits + finestPlace).toNat
  if isNegative bits then -(n : Int) else n

/-- The bits of a quotient of counts. -/
def ratio (num den : Nat) : UInt64 := (num.toFloat / den.toFloat).toBits

end TaskPipeline.Decimal
