import TaskPipeline.Shell.Script
import TaskPipeline.Text.Based

/-!
Arithmetic terms of scripts: numbers of 64 signed bits and parameters under the usual operators,
which bind the tighter the later their level comes. A term is evaluated while it is read; a part
whose value does not matter is read without being evaluated.
-/

namespace TaskPipeline.Shell.Arithmetic

open TaskPipeline

/-- Why a term has no value. -/
inductive TermError where
  | expected (what : String)
  | divisionByZero
  /-- The value of a parameter is no number. -/
  | noNumber (text : String)
  /-- A parameter cannot be assigned to. -/
  | fixed (name : String)
  deriving DecidableEq, Repr

def TermError.message (term : String) : TermError → String
  | expected what => "arithmetic expression: expecting " ++ what ++ ": \"" ++ term ++ "\""
  | divisionByZero => "arithmetic expression: division by zero: \"" ++ term ++ "\""
  | noNumber text => "Illegal number: " ++ text
  | fixed name => name ++ ": is read only"

inductive Lexeme where
  | number (n : Int64)
  | name (s : String)
  | operator (s : String)
  /-- A character that has no place in a term. -/
  | stray
  deriving DecidableEq, Repr

/-- The operators, the longer ones first. -/
def operators : List String :=
  ["<<=", ">>=", "<<", ">>", "<=", ">=", "==", "!=", "&&", "||", "+=", "-=", "*=", "/=", "%=",
    "&=", "^=", "|=", "=", "<", ">", "+", "-", "*", "/", "%", "&", "^", "|", "!", "~", "?", ":",
    "(", ")"]

/-- The lexemes of a term; what follows a stray character is no matter. -/
def lexemes : Nat → List Char → List Lexeme
  | 0, _ | _, [] => []
  | fuel + 1, c :: cs =>
    if c = ' ' ∨ c = '\t' ∨ c = '\n' then lexemes fuel cs
    else if isNameStart c then
      .name (String.ofList ((c :: cs).takeWhile isNameChar)) ::
        lexemes fuel ((c :: cs).dropWhile isNameChar)
    else
      match Text.frontMagnitude? (c :: cs) with
      | some (n, rest) => .number (Text.clampInt64 n) :: lexemes fuel rest
      | none =>
        match operators.find? fun s => s.toList.isPrefixOf (c :: cs) with
        | some s => .operator s :: lexemes fuel ((c :: cs).drop s.length)
        | none => [.stray]

/-- A term that is being evaluated: what is left of it, and the values of the parameters. -/
structure Progress where
  rest : List Lexeme
  lookup : String → Option String
  isFixed : String → Bool
  assigned : List (String × Int64) := []

abbrev Evaluation := StateT Progress (Except TermError)

/-- The binary operators, level by level, the loosest first. -/
def levels : List (List String) :=
  [["||"], ["&&"], ["|"], ["^"], ["&"], ["==", "!="], ["<", "<=", ">", ">="], ["<<", ">>"],
    ["+", "-"], ["*", "/", "%"]]

def truth (b : Bool) : Int64 := if b then 1 else 0

/-- The value of an operation. -/
def apply (op : String) (a b : Int64) : Except TermError Int64 :=
  match op with
  | "||" => .ok (truth (a ≠ 0 ∨ b ≠ 0))
  | "&&" => .ok (truth (a ≠ 0 ∧ b ≠ 0))
  | "|" => .ok (a ||| b)
  | "^" => .ok (a ^^^ b)
  | "&" => .ok (a &&& b)
  | "==" => .ok (truth (a = b))
  | "!=" => .ok (truth (a ≠ b))
  | "<" => .ok (truth (a < b))
  | "<=" => .ok (truth (a ≤ b))
  | ">" => .ok (truth (b < a))
  | ">=" => .ok (truth (b ≤ a))
  | "<<" => .ok (a <<< b)
  | ">>" => .ok (a >>> b)
  | "+" => .ok (a + b)
  | "-" => .ok (a - b)
  | "*" => .ok (a * b)
  | "/" => if b = 0 then .error .divisionByZero else .ok (a / b)
  | "%" => if b = 0 then .error .divisionByZero else .ok (a % b)
  | _ => .ok b

/-- The operator that an assignment applies first, if the lexeme is one. -/
def assigning? : Lexeme → Option String
  | .operator "=" => some "="
  | .operator s =>
    if ["<<=", ">>=", "+=", "-=", "*=", "/=", "%=", "&=", "^=", "|="].contains s then
      some (String.ofList s.toList.dropLast)
    else none
  | _ => none

/-- The number that the value of a parameter spells. Without a value it is zero. -/
def numberOf (text : String) : Except TermError Int64 :=
  match Text.frontInteger? text.toList with
  | some (n, rest) =>
    if rest.all Text.isSpace ∧ Text.fitsInt64 n then .ok (Text.clampInt64 n)
    else .error (.noNumber text)
  | none => if text.toList.all Text.isSpace then .ok 0 else .error (.noNumber text)

def valueOf (name : String) : Evaluation Int64 := do
  let p ← get
  match p.assigned.lookup name with
  | some n => return n
  | none => numberOf ((p.lookup name).getD "")

def assign (name : String) (n : Int64) : Evaluation Unit := do
  let p ← get
  if p.isFixed name then throw (.fixed name)
  set { p with assigned := (name, n) :: p.assigned.filter (·.1 != name) }

/-- Takes the operator in front if it is one of some. -/
def take? (ops : List String) : Evaluation (Option String) := do
  let p ← get
  match p.rest with
  | .operator s :: rest =>
    if ops.contains s then
      set { p with rest := rest }
      return some s
    else return none
  | _ => return none

mutual

/-- A term with assignments and choices. The flag says that its value does not matter. -/
def whole : Nat → Bool → Evaluation Int64
  | 0, _ => throw (.expected "primary")
  | fuel + 1, idle => do
    let p ← get
    match p.rest with
    | .name s :: next :: rest =>
      match assigning? next with
      | some op =>
        set { p with rest := rest }
        let n ← whole fuel idle
        if idle then return n
        let n ← if op = "=" then pure n else apply op (← valueOf s) n
        assign s n
        return n
      | none => choice fuel idle
    | _ => choice fuel idle

/-- A condition with two terms to choose from, or a term without one. -/
def choice : Nat → Bool → Evaluation Int64
  | 0, _ => throw (.expected "primary")
  | fuel + 1, idle => do
    let c ← level fuel idle levels
    match ← take? ["?"] with
    | none => return c
    | some _ =>
      let a ← whole fuel (idle || c = 0)
      if (← take? [":"]).isNone then throw (.expected "':'")
      let b ← choice fuel (idle || c ≠ 0)
      return if c ≠ 0 then a else b

/-- A term of operators of some levels. -/
def level : Nat → Bool → List (List String) → Evaluation Int64
  | 0, _, _ => throw (.expected "primary")
  | fuel + 1, idle, [] => primary fuel idle
  | fuel + 1, idle, ops :: tighter => do
    let a ← level fuel idle tighter
    more fuel idle ops tighter a

/-- Goes on with the operators of one level. -/
def more : Nat → Bool → List String → List (List String) → Int64 → Evaluation Int64
  | 0, _, _, _, _ => throw (.expected "primary")
  | fuel + 1, idle, ops, tighter, a => do
    match ← take? ops with
    | none => return a
    | some op =>
      let settled := (op = "&&" ∧ a = 0) ∨ (op = "||" ∧ a ≠ 0)
      let b ← level fuel (idle || settled) tighter
      more fuel idle ops tighter (← if idle then pure b else apply op a b)

/-- A number, a parameter, a term in parentheses, or one of these behind signs. -/
def primary : Nat → Bool → Evaluation Int64
  | 0, _ => throw (.expected "primary")
  | fuel + 1, idle => do
    let p ← get
    match p.rest with
    | .number n :: rest =>
      set { p with rest := rest }
      return n
    | .name s :: rest =>
      set { p with rest := rest }
      if idle then return 0 else valueOf s
    | .operator op :: rest =>
      set { p with rest := rest }
      match op with
      | "+" => primary fuel idle
      | "-" => return -(← primary fuel idle)
      | "!" => return truth ((← primary fuel idle) = 0)
      | "~" => return ~~~(← primary fuel idle)
      | "(" =>
        let n ← whole fuel idle
        if (← take? [")"]).isNone then throw (.expected "')'")
        return n
      | _ => throw (.expected "primary")
    | _ => throw (.expected "primary")

end

/-- The value of a term, and the parameters that it assigns to. -/
def eval (lookup : String → Option String) (isFixed : String → Bool) (term : String) :
    Except TermError (Int64 × List (String × Int64)) := do
  let start : Progress :=
    { rest := lexemes (term.length + 1) term.toList, lookup := lookup, isFixed := isFixed }
  let (n, p) ← (whole (16 * term.length + 16) false).run start
  if p.rest.isEmpty then return (n, p.assigned.reverse) else throw (.expected "EOF")

end TaskPipeline.Shell.Arithmetic
