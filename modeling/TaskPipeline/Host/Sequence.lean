import TaskPipeline.Host.Format
import TaskPipeline.Host.Tool

/-!
Runs of numbers: `seq` counts from one number to another in steps, with the places that its
arguments have.
-/

namespace TaskPipeline.Host

open Text

/-- A number of an argument: its value and how it is written. -/
structure Operand where
  negative : Bool
  size : Fraction
  /-- The characters of the argument. -/
  width : Nat
  /-- The places behind the point; none if the number is not written in decimal places. -/
  places : Option Nat

namespace Operand

/-- A number as a quotient with a sign. -/
def upper (n : Operand) : Int := if n.negative then -↑n.size.upper else ↑n.size.upper

/-- The places that a decimal numeral has. -/
def placesOf (cs : List Char) : Nat :=
  let body := cs.takeWhile fun c => c != 'e' && c != 'E'
  let places := ((body.dropWhile (· != '.')).drop 1).length
  let power := (frontInteger? (cs.drop (body.length + 1))).map (·.1)
  ((↑places : Int) - power.getD 0).toNat

/-- The number that an argument spells. -/
def parse (s : String) : Except String Operand :=
  let invalid : Except String Operand :=
    .error ("invalid floating point argument: " ++ inQuotes s)
  match frontMeasure? s.toList with
  | some (.finite negative size, []) =>
    let isPlain := !s.toList.any fun c => c == 'x' || c == 'X'
    let cs := s.toList.dropWhile fun c => isSpace c || c == '+'
    let places := placesOf cs
    let body := cs.takeWhile fun c => c != 'e' && c != 'E'
    let whole := (body.takeWhile (· != '.')).length
    let hasPower := body.length < cs.length
    let width := if hasPower then
        (size.fixed places false).length + if negative then 1 else 0
      else (if whole = 0 ∨ body.take 2 = ['-', '.'] then 1 else 0) + whole +
        if places > 0 then places + 1 else 0
    .ok ⟨negative, size, width, if isPlain then some places else none⟩
  | some (.noNumber _, []) => .error ("invalid 'not-a-number' argument: " ++ inQuotes s)
  | _ => invalid

end Operand

/-- A run of numbers over one lower number. -/
structure Run where
  first : Int
  step : Int
  last : Int
  lower : Nat

namespace Run

def ofOperands (first step last : Operand) : Run :=
  let lower := first.size.lower * step.size.lower * last.size.lower
  let scaled (n : Operand) : Int := n.upper * ↑(lower / n.size.lower)
  ⟨scaled first, scaled step, scaled last, lower⟩

def count (r : Run) : Nat :=
  if r.step > 0 then if r.first > r.last then 0 else ((r.last - r.first) / r.step).toNat + 1
  else if r.first < r.last then 0
  else ((r.first - r.last) / -r.step).toNat + 1

/-- The numbers of the run. -/
def members (r : Run) : List Int := (List.range r.count).map fun n => r.first + r.step * ↑n

end Run

/-- Options in front; a dash before a digit or a point begins a number. -/
def sequenceArguments : Nat → List String → List String × List String
  | 0, args => ([], args)
  | _, [] => ([], [])
  | fuel + 1, arg :: rest =>
    match arg.toList with
    | ['-', '-'] => ([], rest)
    | '-' :: c :: cs =>
      if c.isDigit ∨ c = '.' then ([], arg :: rest)
      else if (c = 's' ∨ c = 'f') ∧ cs.isEmpty then
        let (options, others) := sequenceArguments fuel (rest.drop 1)
        (arg :: rest.take 1 ++ options, others)
      else
        let (options, others) := sequenceArguments fuel rest
        (arg :: options, others)
    | _ => ([], arg :: rest)

/-- What is wrong with a format for numbers, of which one must be in it. -/
def formatProblem? (text : String) : Option String :=
  let quoted := inQuotes text
  let rec count : List Char → Option (Nat × Option Char)
    | [] => some (0, none)
    | '%' :: '%' :: rest => count rest
    | '%' :: rest =>
      let letter := (rest.dropWhile fun c => "-+#0 '.L".toList.contains c || c.isDigit).head?
      (count rest).map fun (n, _) => (n + 1, letter)
    | _ :: rest => count rest
  match count text.toList with
  | some (0, _) => some ("format " ++ quoted ++ " has no % directive")
  | some (1, some c) =>
    if "efgaEFGA".toList.contains c then none
    else some ("format " ++ quoted ++ " has unknown %" ++ String.singleton c ++ " directive")
  | some (1, none) => some ("format " ++ quoted ++ " ends in %")
  | _ => some ("format " ++ quoted ++ " has too many % directives")

/-- A number of a run as text with so many places. -/
def numeral (lower : Nat) (places : Nat) (n : Int) : String :=
  (if n < 0 then "-" else "") ++ String.ofList (Fraction.fixed places false ⟨n.natAbs, lower⟩)

/-- Zeros between the sign and the digits that fill up to a width. -/
def zeroFilled (width : Nat) (s : String) : String :=
  let zeros := String.ofList (List.replicate (width - s.length) '0')
  if s.startsWith "-" then "-" ++ zeros ++ String.ofList (s.toList.drop 1) else zeros ++ s

/-- The texts of the numbers of a run. -/
def runTexts (o : Options) (first step last : Operand) : List String :=
  let r := Run.ofOperands first step last
  match o.value? 'f', first.places, step.places with
  | some text, _, _ => r.members.map fun n =>
      String.ofList (format .toolFormat text [numeral r.lower 40 n]).out
  | none, some a, some b =>
    let places := max a b
    let plain := r.members.map (numeral r.lower places)
    if !o.has 'w' then plain
    else
      let room (n : Operand) : Nat :=
        let own := n.places.getD 0
        n.width + (places - own) + (if own = 0 ∧ places > 0 then 1 else 0) -
          (own - places) - (if own > 0 ∧ places = 0 then 1 else 0)
      plain.map (zeroFilled (max (room first) (room last)))
  | none, _, _ => r.members.map fun n =>
      (if n < 0 then "-" else "") ++ String.ofList (Fraction.general 6 false ⟨n.natAbs, r.lower⟩)

def seq (w : Workpiece) : Toolwork :=
  let (options, operands) := sequenceArguments (w.args.length + 1) w.args
  { w with args := options }.withOptions 1 { letters := "w", withArgument := "sf", long :=
      [("--equal-width", 'w'), ("--separator", 's'), ("--format", 'f')] } fun o =>
    let problem : Option String :=
      if operands.isEmpty then some "missing operand"
      else operands[3]?.map fun extra => "extra operand " ++ inQuotes extra
    let wrongFormat := (o.value? 'f').bind formatProblem?
    match problem, wrongFormat, operands.mapM Operand.parse with
    | some text, _, _ => w.misuse 1 text
    | none, some text, _ => .fail 1 (w.message text)
    | none, none, .error text => w.misuse 1 text
    | none, none, .ok numbers =>
      let one : Operand := ⟨false, ⟨1, 1⟩, 1, some 0⟩
      let (first, step, last) := match numbers with
        | [last] => (one, one, last)
        | [first, last] => (first, one, last)
        | first :: step :: last :: _ => (first, step, last)
        | [] => (one, one, one)
      if step.size.upper = 0 then
        w.misuse 1 ("invalid Zero increment value: " ++ inQuotes (operands[1]?.getD ""))
      else if o.has 'f' ∧ o.has 'w' then
        w.misuse 1 "format string may not be specified when printing equal width strings"
      else
        let texts := runTexts o first step last
        if texts.isEmpty then {} else .print (((o.value? 's').getD "\n").intercalate texts ++ "\n")

/-- The prime factors of a number from a divisor on, the smallest first. -/
def primeFactors : Nat → Nat → Nat → List Nat
  | 0, _, _ => []
  | fuel + 1, divisor, n =>
    if n < 2 then []
    else if divisor * divisor > n then [n]
    else if n % divisor = 0 then divisor :: primeFactors fuel divisor (n / divisor)
    else primeFactors fuel (divisor + 1) n

def factor (w : Workpiece) : Toolwork :=
  w.withOptions 1 { letters := "h" } fun o =>
    let words := if o.others.isEmpty then
        ((textOf w.input.bytes).map fun c => if isSpace c then ' ' else c).splitOn " "
      else o.others
    let (out, err) := (words.filter (· != "")).foldl (fun (out, err) word =>
      match digits? (word.toList.dropWhile (· == '+')) with
      | some n =>
        let parts := (primeFactors (Nat.sqrt n + 64) 2 n).map fun p => " " ++ toString p
        (out ++ toString n ++ ":" ++ String.join parts ++ "\n", err)
      | none =>
        (out, err ++ w.message (inQuotes word ++ " is not a valid positive integer"))) ("", "")
    { status := if err.isEmpty then 0 else 1, out := .ofText out, err := err }

end TaskPipeline.Host
