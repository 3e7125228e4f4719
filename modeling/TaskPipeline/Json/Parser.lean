import TaskPipeline.Decimal
import TaskPipeline.Json.Basic
import TaskPipeline.Text.Numeral

/-!
Reading JSON texts. A text is one value between blanks; integers have no leading zero and no plus
sign; strings hold no bare control characters. What nests deeper than `maxDepth` is unreadable.
`Json.value` reads one value and says what is left, `Json.parse?` wants nothing left.
-/

namespace TaskPipeline.Json

/-- How deep arrays and objects may nest if they are to be read. -/
def maxDepth : Nat := 127

def isSpace (c : Char) : Bool := c == ' ' || c == '\n' || c == '\t' || c == '\r'

def skipSpace (cs : List Char) : List Char := cs.dropWhile isSpace

/-! ## Strings -/

def hexValue (c : Char) : Option Nat :=
  if '0' ≤ c ∧ c ≤ '9' then some (c.toNat - '0'.toNat)
  else if 'a' ≤ c ∧ c ≤ 'f' then some (c.toNat - 'a'.toNat + 10)
  else if 'A' ≤ c ∧ c ≤ 'F' then some (c.toNat - 'A'.toNat + 10)
  else none

def hexUnit (a b c d : Char) : Option Nat := do
  return (((← hexValue a) * 16 + (← hexValue b)) * 16 + (← hexValue c)) * 16 + (← hexValue d)

/-- The first half of a surrogate pair. -/
def isHighHalf (n : Nat) : Bool := 0xD800 ≤ n && n ≤ 0xDBFF

/-- The second half of a surrogate pair. -/
def isLowHalf (n : Nat) : Bool := 0xDC00 ≤ n && n ≤ 0xDFFF

def joinHalves (high low : Nat) : Char :=
  Char.ofNat (0x10000 + (high - 0xD800) * 0x400 + (low - 0xDC00))

/-- The characters up to the closing quote, escapes untouched, and what follows the quote. -/
def rawString : List Char → Option (List Char × List Char)
  | [] => none
  | '"' :: rest => some ([], rest)
  | '\\' :: c :: rest => do
    let (raw, left) ← rawString rest
    return ('\\' :: c :: raw, left)
  | c :: rest =>
    if c.toNat < 0x20 then none
    else do
      let (raw, left) ← rawString rest
      return (c :: raw, left)

/-- The character that a one-letter escape stands for. -/
def shortEscape : Char → Option Char
  | '"' => some '"'
  | '\\' => some '\\'
  | '/' => some '/'
  | 'b' => some '\x08'
  | 'f' => some '\x0C'
  | 'n' => some '\n'
  | 'r' => some '\r'
  | 't' => some '\t'
  | _ => none

/-- A piece of a string: a character, or a unit of UTF-16 given by its four digits. -/
inductive Piece where
  | char (c : Char)
  | unit (n : Nat)

/-- Reads the escapes. -/
def pieces : List Char → Option (List Piece)
  | [] => some []
  | '\\' :: 'u' :: a :: b :: c :: d :: rest => do
    return .unit (← hexUnit a b c d) :: (← pieces rest)
  | '\\' :: c :: rest => do return .char (← shortEscape c) :: (← pieces rest)
  | '\\' :: [] => none
  | c :: rest => do return .char c :: (← pieces rest)

/-- Puts the pieces together; none if a surrogate half stands alone. -/
def assemble : List Piece → Option (List Char)
  | [] => some []
  | .char c :: rest => (assemble rest).map (c :: ·)
  | .unit n :: .unit m :: rest =>
    if isHighHalf n ∧ isLowHalf m then (assemble rest).map (joinHalves n m :: ·)
    else if isHighHalf n ∨ isLowHalf n then none
    else (assemble (.unit m :: rest)).map (Char.ofNat n :: ·)
  | .unit n :: rest =>
    if isHighHalf n ∨ isLowHalf n then none else (assemble rest).map (Char.ofNat n :: ·)

/-- A string after its opening quote, with what follows it. The inner value is none if the
string is well written and no text. -/
def string (cs : List Char) : Option (Option (List Char) × List Char) := do
  let (raw, left) ← rawString cs
  return (assemble (← pieces raw), left)

/-! ## Numbers -/

/-- The parts of a written number. -/
structure Written where
  negative : Bool
  whole : List Char
  /-- The digits after the point, if there is one. -/
  fraction : Option (List Char)
  /-- The sign and the digits of the exponent, if there is one. -/
  power : Option (Bool × List Char)

def spanDigits (cs : List Char) : List Char × List Char :=
  (cs.takeWhile Char.isDigit, cs.dropWhile Char.isDigit)

/-- Digits, at least one. -/
def someDigits (cs : List Char) : Option (List Char × List Char) :=
  match spanDigits cs with
  | ([], _) => none
  | found => some found

def written (cs : List Char) : Option (Written × List Char) := do
  let (negative, cs) := match cs with
    | '-' :: rest => (true, rest)
    | _ => (false, cs)
  let (whole, cs) ← someDigits cs
  if whole.length > 1 ∧ whole.head? = some '0' then none
  let (fraction, cs) ← match cs with
    | '.' :: rest => (someDigits rest).map fun (ds, left) => (some ds, left)
    | _ => some (none, cs)
  let (power, cs) ← match cs with
    | c :: rest =>
      if c = 'e' ∨ c = 'E' then
        match rest with
        | '-' :: rest => (someDigits rest).map fun (ds, left) => (some (true, ds), left)
        | '+' :: rest => (someDigits rest).map fun (ds, left) => (some (false, ds), left)
        | _ => (someDigits rest).map fun (ds, left) => (some (false, ds), left)
      else some (none, cs)
    | [] => some (none, cs)
  return (⟨negative, whole, fraction, power⟩, cs)

/-- Takes digits while the number stays within 64 bits: the number, and the digits not taken. -/
def takeDigits (n : Nat) : List Char → Nat × List Char
  | [] => (n, [])
  | d :: ds =>
    let m := n * 10 + (d.toNat - '0'.toNat)
    if m < UInt64.size then takeDigits m ds else (n, d :: ds)

/-- The double that written digits stand for; none beyond the doubles. -/
def Written.double (w : Written) : Option UInt64 :=
  let (whole, dropped) := takeDigits 0 w.whole
  let fraction := w.fraction.getD []
  let (digits, unused) := takeDigits whole fraction
  let shift : Int := dropped.length - (fraction.length - unused.length : Nat)
  match w.power with
  | none => Decimal.read w.negative digits.toUInt64 shift
  | some (down, ds) =>
    let e := Text.digitsValue ds
    if e < 2147483648 then
      Decimal.read w.negative digits.toUInt64 (if down then shift - e else shift + e)
    else if digits ≠ 0 ∧ !down then none
    else Decimal.read w.negative 0 0

/-- The number that is written: an integer where the form and the range allow it. -/
def Written.number (w : Written) : Option Number :=
  let n := Text.digitsValue w.whole
  let isInt := w.fraction.isNone ∧ w.power.isNone
  if isInt ∧ !w.negative ∧ n < UInt64.size then some (.int n)
  else if isInt ∧ w.negative ∧ 0 < n ∧ n ≤ Int64.minValue.toInt.natAbs then some (.int (-n))
  else w.double.map .double

/-! ## Values -/

/-- A reader takes a value off the front of a text. -/
abbrev Reader := List Char → Option (Json × List Char)

/-- The items of an array after its first item, and what follows the array. -/
def moreItems (item : Reader) : Nat → List Char → Option (List Json × List Char)
  | 0, _ => none
  | fuel + 1, cs =>
    match skipSpace cs with
    | ']' :: rest => some ([], rest)
    | ',' :: rest => do
      let (x, rest) ← item rest
      let (xs, rest) ← moreItems item fuel rest
      return (x :: xs, rest)
    | _ => none

/-- A member of an object: its key, if that is a text, and its value. -/
abbrev Member := Option String × Json

/-- A key, a colon and a value. -/
def member (item : Reader) (cs : List Char) : Option (Member × List Char) :=
  match skipSpace cs with
  | '"' :: rest => do
    let (key, rest) ← string rest
    match skipSpace rest with
    | ':' :: rest => do
      let (x, rest) ← item rest
      return ((key.map String.ofList, x), rest)
    | _ => none
  | _ => none

/-- The members of an object after its first member, and what follows the object. -/
def moreMembers (item : Reader) : Nat → List Char → Option (List Member × List Char)
  | 0, _ => none
  | fuel + 1, cs =>
    match skipSpace cs with
    | '\x7d' :: rest => some ([], rest)
    | ',' :: rest => do
      let (m, rest) ← member item rest
      let (ms, rest) ← moreMembers item fuel rest
      return (m :: ms, rest)
    | _ => none

/-- Everything but arrays and objects. -/
def scalar : Reader
  | 'n' :: 'u' :: 'l' :: 'l' :: rest => some (null, rest)
  | 't' :: 'r' :: 'u' :: 'e' :: rest => some (bool true, rest)
  | 'f' :: 'a' :: 'l' :: 's' :: 'e' :: rest => some (bool false, rest)
  | '"' :: rest => do
    let (text, rest) ← string rest
    return ((text.map fun cs => str (String.ofList cs)).getD unreadable, rest)
  | cs => do
    let (w, rest) ← written cs
    return ((w.number.map num).getD unreadable, rest)

/-- An array at a depth, if that is not too deep. -/
def arrayAt (depth : Nat) (items : List Json) : Json :=
  if depth ≤ maxDepth then arr items else unreadable

/-- An object at a depth, if that is not too deep and all its keys are texts. -/
def objectAt (depth : Nat) (members : List Member) : Json :=
  match members.mapM fun m => m.1.map fun key => (key, m.2) with
  | some ms => if depth ≤ maxDepth then obj ms else unreadable
  | none => unreadable

/-- One value after blanks, inside so many arrays and objects. Each of them costs fuel. -/
def value : Nat → Nat → Reader
  | 0, _, _ => none
  | fuel + 1, depth, cs =>
    match skipSpace cs with
    | '[' :: rest =>
      match skipSpace rest with
      | ']' :: rest => some (arrayAt (depth + 1) [], rest)
      | rest => do
        let (x, rest) ← value fuel (depth + 1) rest
        let (xs, rest) ← moreItems (value fuel (depth + 1)) (rest.length + 1) rest
        return (arrayAt (depth + 1) (x :: xs), rest)
    | '\x7b' :: rest =>
      match skipSpace rest with
      | '\x7d' :: rest => some (objectAt (depth + 1) [], rest)
      | rest => do
        let (m, rest) ← member (value fuel (depth + 1)) rest
        let (ms, rest) ← moreMembers (value fuel (depth + 1)) (rest.length + 1) rest
        return (objectAt (depth + 1) (m :: ms), rest)
    | cs => scalar cs

/-- The value at the front of a text. -/
def parseFront? (s : String) : Option (Json × List Char) := value (s.length + 1) 0 s.toList

/-- The value that is the whole text. -/
def parse? (s : String) : Option Json := do
  let (x, rest) ← parseFront? s
  if (skipSpace rest).isEmpty then some x else none

end TaskPipeline.Json
