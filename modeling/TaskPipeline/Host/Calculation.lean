import TaskPipeline.Host.Regex
import TaskPipeline.Host.Tool

/-!
Calculations that words spell: `expr` knows numbers of any size, texts and regular expressions.
-/

namespace TaskPipeline.Host

namespace Calculation

/-- The words that are left, and the one before them. -/
structure Words where
  left : List String
  last : String := ""

abbrev Calc := StateT Words (Except String)

def peek : Calc (Option String) := do return (← get).left.head?

/-- The next word, which must be there. -/
def take : Calc String := do
  let w ← get
  match w.left with
  | s :: rest =>
    set ({ left := rest, last := s } : Words)
    return s
  | [] => throw ("syntax error: missing argument after " ++ inQuotes w.last)

/-- The whole number that a text spells. -/
def integer? (s : String) : Option Int :=
  match s.toList with
  | '-' :: ds => (Text.digits? ds).map fun n => -↑n
  | ds => (Text.digits? ds).map fun n => ↑n

/-- A text that counts as nothing. -/
def isNothing (s : String) : Bool := s.isEmpty || integer? s == some 0

def truth (b : Bool) : String := if b then "1" else "0"

/-- The outcome of an operation on numbers. A part that is passed over has none. -/
def onNumbers (counts : Bool) (op a b : String) : Calc String := do
  if !counts then return ""
  match integer? a, integer? b with
  | some m, some n =>
    match op with
    | "+" => return toString (m + n)
    | "-" => return toString (m - n)
    | "*" => return toString (m * n)
    | _ =>
      if n = 0 then throw "division by zero"
      return toString (if op = "/" then m.tdiv n else m.tmod n)
  | _, _ => throw "non-integer argument"

def comparisons : List String := ["<", "<=", "=", "==", "!=", ">=", ">"]

def holds (op a b : String) : Bool :=
  let order : Ordering := match integer? a, integer? b with
    | some m, some n => compare m n
    | _, _ => compareOfLessAndEq a b
  match op with
  | "<" => order == .lt
  | "<=" => order != .gt
  | "=" | "==" => order == .eq
  | "!=" => order != .eq
  | ">=" => order != .lt
  | _ => order == .gt

/-- How much of the front of a text an expression covers, or what its first group covers. -/
def matched (text pattern : String) : Calc String := do
  match Regex.parse false false pattern.toList with
  | .error e => throw e.message
  | .ok r =>
    let hasGroup := (pattern.splitOn "\\(").length > 1
    let whole : Regex := .seq (.edge .lineStart) r
    match whole.longest? { rest := text.toList } with
    | some s =>
      if hasGroup then return String.ofList ((s.groups.lookup 1).getD [])
      else return toString (text.length - s.rest.length)
    | none => return if hasGroup then "" else "0"

/-- The place of the first character of a text that is among some. -/
def indexOf (text chars : String) : Nat :=
  match text.toList.findIdx? chars.toList.contains with
  | some n => n + 1
  | none => 0

/-- A part of a text, from a place on. -/
def part (text start length : String) : String :=
  match integer? start, integer? length with
  | some a, some n =>
    if a < 1 ∨ n < 1 then ""
    else String.ofList ((text.toList.drop (a.toNat - 1)).take n.toNat)
  | _, _ => ""

mutual

def anyOf : Nat → (counts : Bool) → Calc String
  | 0, _ => throw "syntax error"
  | fuel + 1, counts => do
    let first ← allOf fuel counts
    moreAny fuel counts first

def moreAny : Nat → Bool → String → Calc String
  | 0, _, v => return v
  | fuel + 1, counts, v => do
    if (← peek) = some "|" then
      let _ ← take
      let b ← allOf fuel (counts && isNothing v)
      moreAny fuel counts (if isNothing v then (if isNothing b then "0" else b) else v)
    else return v

def allOf : Nat → Bool → Calc String
  | 0, _ => throw "syntax error"
  | fuel + 1, counts => do
    let first ← compared fuel counts
    moreAll fuel counts first

def moreAll : Nat → Bool → String → Calc String
  | 0, _, v => return v
  | fuel + 1, counts, v => do
    if (← peek) = some "&" then
      let _ ← take
      let b ← compared fuel (counts && !isNothing v)
      moreAll fuel counts (if isNothing v ∨ isNothing b then "0" else v)
    else return v

def compared : Nat → Bool → Calc String
  | 0, _ => throw "syntax error"
  | fuel + 1, counts => do
    let first ← summed fuel counts
    moreCompared fuel counts first

def moreCompared : Nat → Bool → String → Calc String
  | 0, _, v => return v
  | fuel + 1, counts, v => do
    match ← peek with
    | some op =>
      if comparisons.contains op then
        let _ ← take
        let b ← summed fuel counts
        moreCompared fuel counts (truth (holds op v b))
      else return v
    | none => return v

def summed : Nat → Bool → Calc String
  | 0, _ => throw "syntax error"
  | fuel + 1, counts => do
    let first ← multiplied fuel counts
    moreSummed fuel counts first

def moreSummed : Nat → Bool → String → Calc String
  | 0, _, v => return v
  | fuel + 1, counts, v => do
    match ← peek with
    | some op =>
      if op = "+" ∨ op = "-" then
        let _ ← take
        let b ← multiplied fuel counts
        moreSummed fuel counts (← onNumbers counts op v b)
      else return v
    | none => return v

def multiplied : Nat → Bool → Calc String
  | 0, _ => throw "syntax error"
  | fuel + 1, counts => do
    let first ← searched fuel counts
    moreMultiplied fuel counts first

def moreMultiplied : Nat → Bool → String → Calc String
  | 0, _, v => return v
  | fuel + 1, counts, v => do
    match ← peek with
    | some op =>
      if op = "*" ∨ op = "/" ∨ op = "%" then
        let _ ← take
        let b ← searched fuel counts
        moreMultiplied fuel counts (← onNumbers counts op v b)
      else return v
    | none => return v

def searched : Nat → Bool → Calc String
  | 0, _ => throw "syntax error"
  | fuel + 1, counts => do
    let first ← named fuel counts
    moreSearched fuel counts first

def moreSearched : Nat → Bool → String → Calc String
  | 0, _, v => return v
  | fuel + 1, counts, v => do
    if (← peek) = some ":" then
      let _ ← take
      let b ← named fuel counts
      moreSearched fuel counts (← if counts then matched v b else pure "")
    else return v

/-- A function with its arguments, or a value. -/
def named : Nat → Bool → Calc String
  | 0, _ => throw "syntax error"
  | fuel + 1, counts => do
    match ← peek with
    | some "+" =>
      let _ ← take
      take
    | some "length" =>
      let _ ← take
      return toString (← named fuel counts).length
    | some "match" =>
      let _ ← take
      let a ← named fuel counts
      let b ← named fuel counts
      if counts then matched a b else return ""
    | some "index" =>
      let _ ← take
      let a ← named fuel counts
      return toString (indexOf a (← named fuel counts))
    | some "substr" =>
      let _ ← take
      let a ← named fuel counts
      let start ← named fuel counts
      return part a start (← named fuel counts)
    | _ =>
      let word ← take
      if word = "(" then
        let v ← anyOf fuel counts
        let last := (← get).last
        match ← peek with
        | some ")" =>
          let _ ← take
          return v
        | some s => throw ("syntax error: expecting ')' instead of " ++ inQuotes s)
        | none => throw ("syntax error: expecting ')' after " ++ inQuotes last)
      else if word = ")" then throw "syntax error: unexpected ')'"
      else return word

end

/-- The value that some words spell. -/
def value (words : List String) : Except String String := do
  let (v, w) ← (anyOf (10 * words.length + 20) true).run { left := words }
  match w.left with
  | s :: _ => throw ("syntax error: unexpected argument " ++ inQuotes s)
  | [] => return v

end Calculation

def expr (w : Workpiece) : Toolwork :=
  match if w.args.head? = some "--" then w.args.drop 1 else w.args with
  | [] => w.misuse 2 "missing operand"
  | words =>
    match Calculation.value words with
    | .ok v => { status := if Calculation.isNothing v then 1 else 0, out := .ofText (v ++ "\n") }
    | .error text => .fail 2 (w.message text)

end TaskPipeline.Host
