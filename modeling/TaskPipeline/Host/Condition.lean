import TaskPipeline.Host.Catalog
import TaskPipeline.Host.Quoting
import TaskPipeline.Text.Based

/-!
Conditions that are tested: about texts, about numbers and about files. A script and the tool of the
same name agree on what holds but not on what they say about words that spell no condition.
-/

namespace TaskPipeline.Host.Condition

/-- The files that a condition is about. -/
structure Place where
  disk : Disk
  folder : String

/-- Operators on one word, and those on two. -/
def unaries : List String :=
  ["-e", "-f", "-d", "-c", "-b", "-p", "-u", "-g", "-k", "-s", "-t", "-z", "-n", "-h", "-O", "-G",
    "-L", "-S", "-r", "-w", "-x"]

def comparisons : List String := ["-eq", "-ne", "-lt", "-le", "-gt", "-ge"]

def binaries : List String := ["=", "!=", "-nt", "-ot", "-ef"] ++ comparisons

/-- A condition on a file or on a text. -/
def holdsOf (p : Place) (op x : String) : Bool :=
  let path := resolve p.folder x
  let there := x != "" && p.disk.reaches path
  match op with
  | "-n" => x != ""
  | "-z" => x == ""
  | "-e" | "-r" | "-w" | "-O" | "-G" => there
  | "-f" => there && !p.disk.hasFolder path && !path.startsWith "/dev/"
  | "-d" => there && p.disk.hasFolder path
  | "-x" => there && (p.disk.hasFolder path || p.disk.canRun path)
  | "-c" => there && path.startsWith "/dev/"
  | "-s" => there &&
    (p.disk.hasFolder path || isProgramPath path || Disk.standingFiles.contains path ||
      (p.disk.read? path).any fun f => !f.bytes.isEmpty)
  | _ => false

/-- A condition on two texts or two files. -/
def holdsBetween (p : Place) (a op b : String) : Bool :=
  match op with
  | "=" | "==" => a == b
  | "!=" => a != b
  | "<" => decide (a < b)
  | ">" => decide (b < a)
  | "-ef" => holdsOf p "-e" a && resolve p.folder a == resolve p.folder b
  | "-nt" => false
  | _ => false

def compare (op : String) (a b : Int) : Bool :=
  match op with
  | "-eq" => a == b
  | "-ne" => a != b
  | "-lt" => decide (a < b)
  | "-le" => decide (a ≤ b)
  | "-gt" => decide (b < a)
  | _ => decide (b ≤ a)

/-- A whole number in decimal digits, with blanks around it perhaps. -/
def decimal? (s : String) : Option Int :=
  let cs := s.toList.dropWhile Text.isSpace
  let (negative, cs) := match cs with
    | '-' :: rest => (true, rest)
    | '+' :: rest => (false, rest)
    | rest => (false, rest)
  let digits := cs.takeWhile Char.isDigit
  if digits.isEmpty ∨ !(cs.drop digits.length).all Text.isSpace then none
  else
    let n : Int := Text.digitsValue digits
    some (if negative then -n else n)

/-- The words that are left, the word at hand first, and what is wrong with them. -/
abbrev Check := StateT (List String) (Except String)

/-! ## In scripts -/

namespace Script

/-- The number of 64 bits that a word spells. -/
def number (s : String) : Check Int :=
  match (decimal? s).filter Text.fitsInt64 with
  | some n => return n
  | none => throw ("Illegal number: " ++ s)

def binaryOps : List String := "<" :: ">" :: binaries

/-- What a word is where a condition may begin. -/
inductive Kind where
  | nothing
  | operand
  | operator (s : String)
  deriving DecidableEq

/-- What the first of some words is. An operator on one word is a text where no word follows it or
an operator on two words does. -/
def kindOf : List String → Kind
  | [] => .nothing
  | s :: rest =>
    let isText := match rest with
      | [] => true
      | [_] => false
      | next :: _ => binaryOps.contains next
    if unaries.contains s then if isText then .operand else .operator s
    else if s = "(" then if rest.isEmpty then .operand else .operator s
    else if binaryOps.contains s ∨ ["!", "-a", "-o", ")"].contains s then .operator s
    else .operand

/-- What the word behind the one at hand is. -/
def nextKind : Check Kind := do return kindOf ((← get).drop 1)

/-- Goes some words further. -/
def skip (n : Nat) : Check Kind := do
  modify (·.drop n)
  return kindOf (← get)

/-- The next word, which an operator needs. -/
def operand (op : String) : Check String := do
  let _ ← skip 1
  match (← get).head? with
  | some s => return s
  | none => throw (op ++ ": argument expected")

/-- A condition that begins with a word, with an operator on two words behind it or alone. -/
def comparison (p : Place) : Check Bool := do
  let a := (← get).head?.getD ""
  match ← nextKind with
  | .operator op =>
    if binaryOps.contains op then
      let _ ← skip 1
      let b ← operand op
      if comparisons.contains op then return compare op (← number a) (← number b)
      else return holdsBetween p a op b
    else return a != ""
  | _ => return a != ""

mutual

def either (p : Place) : Nat → Kind → Check Bool
  | 0, _ => throw "argument expected"
  | fuel + 1, k => do
    let a ← all p fuel k
    if (← nextKind) = .operator "-o" then
      let b ← either p fuel (← skip 2)
      return a || b
    else return a

def all (p : Place) : Nat → Kind → Check Bool
  | 0, _ => throw "argument expected"
  | fuel + 1, k => do
    let a ← negated p fuel k
    if (← nextKind) = .operator "-a" then
      let b ← all p fuel (← skip 2)
      return a && b
    else return a

def negated (p : Place) : Nat → Kind → Check Bool
  | 0, _ => throw "argument expected"
  | fuel + 1, k => do
    if k = .operator "!" then
      let next ← nextKind
      if next ≠ .nothing then let _ ← skip 1
      return !(← negated p fuel next)
    else primary p fuel k

def primary (p : Place) : Nat → Kind → Check Bool
  | 0, _ => throw "argument expected"
  | fuel + 1, k => do
    match k with
    | .nothing => return false
    | .operator "(" =>
      let next ← skip 1
      if next = .operator ")" then return false
      let v ← either p fuel next
      if (← skip 1) ≠ .operator ")" then throw "closing paren expected"
      return v
    | .operator op =>
      if unaries.contains op then
        let x ← operand op
        if op = "-t" then
          let _ ← number x
          return false
        return holdsOf p op x
      else comparison p
    | .operand => comparison p

end

/-- A condition of which the kind of the first word is known, and which no word follows. -/
def whole (p : Place) (k : Kind) (words : List String) : Except String Bool := do
  let (v, left) ← (either p (4 * words.length + 8) k).run words
  match left with
  | s :: _ :: _ => throw ((if s.isEmpty then "" else s ++ ": ") ++ "unexpected operator")
  | _ => return v

/-- Whether the condition that some words spell holds, or what is wrong with them. -/
def holds (p : Place) : List String → Except String Bool
  | [] => return false
  | [a, op, b] =>
    if binaryOps.contains op then whole p .operand [a, op, b]
    else if a = "(" ∧ b = ")" then whole p (kindOf [op]) [op]
    else if a = "!" then return !(← whole p (kindOf [op, b]) [op, b])
    else whole p (kindOf [a, op, b]) [a, op, b]
  | [a, b, c, d] =>
    if a = "(" ∧ d = ")" then whole p (kindOf [b, c]) [b, c]
    else if a = "!" then
      if binaryOps.contains c then return !(← whole p .operand [b, c, d])
      else if b = "(" ∧ d = ")" then return !(← whole p (kindOf [c]) [c])
      else if b = "!" then whole p (kindOf [c, d]) [c, d]
      else return !(← whole p (kindOf [b, c, d]) [b, c, d])
    else whole p (kindOf [a, b, c, d]) [a, b, c, d]
  | words => whole p (kindOf words) words

end Script

/-! ## In the tool -/

namespace Tool

/-- The number that a word spells. -/
def number (s : String) : Except String Int :=
  match decimal? s with
  | some n => return n
  | none => throw ("invalid integer " ++ inQuotes s)

def between (p : Place) (a op b : String) : Except String Bool := do
  if comparisons.contains op then return compare op (← number a) (← number b)
  else return holdsBetween p a op b

def isBinary (op : String) : Bool := op == "==" || binaries.contains op

/-- A word is a dash and a letter. -/
def isLetterOption (s : String) : Bool := s.startsWith "-" && s.length == 2

def unary (p : Place) (op x : String) : Except String Bool := do
  if unaries.contains op then return holdsOf p op x
  else throw (inQuotes op ++ ": unary operator expected")

/-- The words end where more are wanted. -/
def beyond (words : List String) : Except String Bool :=
  throw ("missing argument after " ++ inQuotes (words.getLast?.getD ""))

mutual

/-- Conditions joined by operators, and the words that are left. -/
def either (p : Place) (all : List String) : Nat → List String →
    Except String (Bool × List String)
  | 0, _ => throw "too many arguments"
  | fuel + 1, words => do
    let (a, left) ← both p all fuel words
    match left with
    | "-o" :: rest =>
      let (b, left) ← either p all fuel rest
      return (a || b, left)
    | _ => return (a, left)

def both (p : Place) (all : List String) : Nat → List String → Except String (Bool × List String)
  | 0, _ => throw "too many arguments"
  | fuel + 1, words => do
    let (a, left) ← term p all fuel words
    match left with
    | "-a" :: rest =>
      let (b, left) ← both p all fuel rest
      return (a && b, left)
    | _ => return (a, left)

def term (p : Place) (all : List String) : Nat → List String → Except String (Bool × List String)
  | 0, _ => throw "too many arguments"
  | fuel + 1, words => do
    match words with
    | [] => return (← beyond all, [])
    | "!" :: rest =>
      let (v, left) ← term p all fuel rest
      return (!v, left)
    | "(" :: rest =>
      let (v, left) ← either p all fuel rest
      match left with
      | ")" :: left => return (v, left)
      | [] => throw (inQuotes ")" ++ " expected")
      | s :: _ => throw (inQuotes ")" ++ " expected, found " ++ s)
    | a :: op :: rest =>
      if isBinary op then
        match rest with
        | b :: left => return (← between p a op b, left)
        | [] => return (← beyond all, [])
      else if isLetterOption a then return (← unary p a op, rest)
      else return (a != "", op :: rest)
    | [a] => return (a != "", [])

end

def two (p : Place) (a b : String) : Except String Bool :=
  if a = "!" then return b == ""
  else if isLetterOption a then unary p a b
  else beyond [a, b]

def whole (p : Place) (words : List String) : Except String Bool := do
  let (v, left) ← either p words (4 * words.length + 8) words
  match left with
  | [] => return v
  | s :: _ => throw ("extra argument " ++ inQuotes s)

def three (p : Place) (a b c : String) : Except String Bool := do
  if isBinary b then between p a b c
  else if a = "!" then return !(← two p b c)
  else if a = "(" ∧ c = ")" then return b != ""
  else if b = "-a" ∨ b = "-o" then whole p [a, b, c]
  else throw (inQuotes b ++ ": binary operator expected")

/-- Whether the condition that some words spell holds, or what is wrong with them. -/
def holds (p : Place) : List String → Except String Bool
  | [] => return false
  | [a] => return a != ""
  | [a, b] => two p a b
  | [a, b, c] => three p a b c
  | [a, b, c, d] => do
    if a = "!" then return !(← three p b c d)
    else if a = "(" ∧ d = ")" then two p b c
    else whole p [a, b, c, d]
  | words => whole p words

end Tool

end TaskPipeline.Host.Condition
