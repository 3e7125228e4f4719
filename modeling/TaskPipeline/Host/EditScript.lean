import TaskPipeline.Host.Regex
import TaskPipeline.Text.Based

/-!
Scripts that edit a stream of lines: which lines an order is for, what it does with them, and how
scripts are read.
-/

namespace TaskPipeline.Host

open Text

namespace Edit

/-! ## Orders -/

/-- A line that is named by its number, by its place or by what it holds. -/
inductive Address where
  | line (n : Nat)
  /-- Every so many lines, from a first one on. -/
  | every (first step : Nat)
  | last
  /-- Lines that an expression covers a part of: the expression used last if none is given. -/
  | like (r : Option Regex)
  deriving Repr

/-- Where a run of lines ends. -/
inductive RunEnd where
  | upTo (a : Address)
  | after (lines : Nat)
  | multiple (n : Nat)
  deriving Repr

/-- The lines that an order is for. -/
structure Choice where
  first : Option Address := none
  second : Option RunEnd := none
  negated : Bool := false
  deriving Repr

/-- A change of case in a text that is put in. -/
inductive Casing where
  | upper
  | lower
  | asIs
  | nextUpper
  | nextLower
  deriving DecidableEq, Repr

/-- A part of a text that is put in. -/
inductive Part where
  | text (c : Char)
  | group (n : Nat)
  | casing (c : Casing)
  deriving DecidableEq, Repr

structure Substitution where
  regex : Option Regex
  parts : List Part
  all : Bool := false
  which : Option Nat := none
  prints : Bool := false
  target : Option String := none
  deriving Repr

inductive Action where
  | opening
  | closing
  | substitute (s : Substitution)
  | exchange (pairs : List (Char × Char))
  | delete
  | deleteLine
  | print
  | printLine
  | next
  | join
  | quit (prints : Bool) (status : Nat)
  | number
  | display
  | hold
  | holdMore
  | fetch
  | fetchMore
  | swap
  | clear
  | insert (text : String)
  | append (text : String)
  | change (text : String)
  | label (name : String)
  | jump (name : String)
  | jumpIf (replaced : Bool) (name : String)
  | readFile (name : String)
  | writeFile (name : String)
  | writeLine (name : String)
  | nameFile
  | skip
  deriving Repr

structure Order where
  choice : Choice
  action : Action
  deriving Repr

/-! ## Reading -/

/-- What is left of a script, and how the expressions in it are written. -/
structure ScriptReader where
  extended : Bool
  rest : List Char
  total : Nat

/-- What is wrong with a script, and behind how many characters. -/
structure ScriptFault where
  place : Nat
  text : String

abbrev Read := StateT ScriptReader (Except ScriptFault)

namespace Read

def fault {α : Type} (text : String) : Read α := do
  let r ← get
  throw ⟨r.total - r.rest.length, text⟩

def faultAtStart {α : Type} (text : String) : Read α := throw ⟨0, text⟩

def peek : Read (Option Char) := do return (← get).rest.head?

def skipTo (rest : List Char) : Read Unit := modify fun r => { r with rest := rest }

def take : Read (Option Char) := do
  let r ← get
  match r.rest with
  | c :: rest =>
    set { r with rest := rest }
    return some c
  | [] => return none

def skipWhile (p : Char → Bool) : Read Unit := modify fun r => { r with rest := r.rest.dropWhile p }

def isGap (c : Char) : Bool := c == ' ' || c == '\t'

def takeWhile (p : Char → Bool) : Read (List Char) := do
  let front := (← get).rest.takeWhile p
  skipWhile p
  return front

/-- The number in front, if there is one. -/
def number? : Read (Option Nat) := do return digits? (← takeWhile Char.isDigit)

/-- The character of a numbered escape, and what follows it. -/
def numbered? (kind : Char) (cs : List Char) : Option (Char × List Char) :=
  let (base, most) := if kind = 'x' then (16, 2) else if kind = 'o' then (8, 3) else (10, 3)
  let ds := (cs.take most).takeWhile fun c => (digitTo? base c).isSome
  if ds.isEmpty then none
  else some (Char.ofNat ((frontDigits base 0 ds).1 % 256), cs.drop ds.length)

/-- Replaces the escapes that stand for one character. Where it would mean something in an
expression it stays hidden by a backslash. -/
def plainEscapes (inRegex : Bool) : Nat → List Char → List Char
  | 0, _ | _, [] => []
  | fuel + 1, '\\' :: c :: rest =>
    let put (e : Char) (left : List Char) : List Char :=
      let marks := if inRegex then "*.[]^$\\/+?()\x7b\x7d|" else "&\\"
      let special := marks.toList.contains e
      (if special then ['\\', e] else [e]) ++ plainEscapes inRegex fuel left
    match c with
    | 'a' => put '\x07' rest
    | 'f' => put '\x0c' rest
    | 'r' => put '\r' rest
    | 't' => put '\t' rest
    | 'v' => put '\x0b' rest
    | 'c' =>
      match rest with
      | e :: left => put (Char.ofNat (e.toUpper.toNat ^^^ 64)) left
      | [] => ['\\', 'c']
    | _ =>
      if "xod".toList.contains c then
        match numbered? c rest with
        | some (e, left) => put e left
        | none => '\\' :: c :: plainEscapes inRegex fuel rest
      else '\\' :: c :: plainEscapes inRegex fuel rest
  | fuel + 1, c :: rest => c :: plainEscapes inRegex fuel rest

/-- The text up to a mark, which counts only outside sets of an expression and where no backslash
hides it, and what follows the mark. -/
def upToMark? (mark : Char) (inRegex : Bool) :
    Nat → Bool → List Char → Option (List Char × List Char)
  | 0, _, _ | _, _, [] => none
  | fuel + 1, inSet, c :: rest =>
    let next (front : List Char) (inSet : Bool) (left : List Char) :
        Option (List Char × List Char) :=
      (upToMark? mark inRegex fuel inSet left).map fun (text, left) => (front ++ text, left)
    if inSet then
      if c = '\n' then none
      else if c = '\\' ∧ rest.head? = some 'n' then next ['\n'] true (rest.drop 1)
      else next [c] (c != ']') rest
    else if c = mark then some ([], rest)
    else if c = '\\' then
      match rest with
      | [] => none
      | d :: left =>
        if d = mark then
          if inRegex ∨ d ≠ '&' then next [d] false left else next ['\\', d] false left
        else if d = 'n' ∧ inRegex then next ['\n'] false left
        else next ['\\', d] false left
    else if c = '\n' ∧ inRegex then none
    else if c = '[' ∧ inRegex then
      let front := rest.takeWhile (· == '^')
      let front := if (rest.drop front.length).head? = some ']' then front ++ [']'] else front
      next (c :: front) true (rest.drop front.length)
    else next [c] false rest

/-- Reads up to a mark; where there is none, everything is read. -/
def upTo (mark : Char) (inRegex : Bool) (complaint : String) : Read (List Char) := do
  let r ← get
  match upToMark? mark inRegex (r.rest.length + 1) false r.rest with
  | some (text, left) =>
    skipTo left
    return text
  | none =>
    if inRegex then skipWhile (· != '\n') else skipTo []
    fault complaint

/-- The expression that a text spells; none if it is empty. -/
def regex (folds : Bool) (text : List Char) : Read (Option Regex) := do
  if text.isEmpty then return none
  let r ← get
  match Regex.parse r.extended folds (plainEscapes true (text.length + 1) text) with
  | .ok e => return some e
  | .error e => fault e.message

/-! ### Addresses -/

def address? : Read (Option Address) := do
  match ← peek with
  | some '$' =>
    let _ ← take
    return some .last
  | some c =>
    if c.isDigit then
      let n := (← number?).getD 0
      skipWhile isGap
      if (← peek) = some '~' then
        let _ ← take
        return some (.every n ((← number?).getD 0))
      else return some (.line n)
    else if c = '/' ∨ c = '\\' then
      let _ ← take
      let mark ← if c = '/' then pure '/' else pure ((← take).getD '/')
      let text ← upTo mark true "unterminated address regex"
      let flags ← takeWhile fun c => c == 'I' || c == 'M'
      return some (.like (← regex (flags.contains 'I') text))
    else return none
  | none => return none

def runEnd? : Read (Option RunEnd) := do
  match ← peek with
  | some '+' =>
    let _ ← take
    return some (.after ((← number?).getD 0))
  | some '~' =>
    let _ ← take
    return some (.multiple ((← number?).getD 0))
  | _ => return (← address?).map .upTo

def choice : Read Choice := do
  let first ← address?
  skipWhile isGap
  let second ← if first.isSome ∧ (← peek) = some ',' then do
      let _ ← take
      skipWhile isGap
      match ← runEnd? with
      | some e => pure (some e)
      | none =>
        let _ ← take
        fault "unexpected \u0060,'"
    else pure none
  match first, second with
  | some (.line 0), some (.upTo (.like _)) => pure ()
  | some (.line 0), _ =>
    let _ ← take
    fault "invalid usage of line address 0"
  | _, _ => pure ()
  skipWhile isGap
  let negated := (← peek) = some '!'
  skipWhile fun c => c == '!' || isGap c
  return ⟨first, second, negated⟩

/-! ### Actions -/

/-- The end of an order: the end of the line, a semicolon, or a brace that closes. -/
def orderEnd : Read Unit := do
  skipWhile isGap
  match ← peek with
  | none | some '}' | some '#' => return
  | some c =>
    let _ ← take
    if c = '\n' ∨ c = ';' then return
    fault "extra characters after command"

/-- The lines of a text behind an order. A backslash at the end of a line lets the text go on. -/
def textLines : Nat → List Char → List Char × List Char
  | 0, _ | _, [] => ([], [])
  | fuel + 1, '\\' :: c :: rest =>
    let (text, left) := textLines fuel rest
    (c :: text, left)
  | fuel + 1, c :: rest =>
    if c = '\n' then ([], rest)
    else
      let (text, left) := textLines fuel rest
      (c :: text, left)

/-- The text of an order that puts lines in. -/
def insertion : Read String := do
  skipWhile isGap
  let r ← get
  let body ← match r.rest with
    | [] => fault "expected \\ after \u0060a', \u0060c' or \u0060i'"
    | '\\' :: rest =>
      let blanks := rest.takeWhile isGap
      match rest.drop blanks.length with
      | '\n' :: more => pure more
      | _ => pure rest
    | rest => pure rest
  let escaped := plainEscapes false (body.length + 1) body
  let (_, left) := textLines (body.length + 1) body
  let (text, _) := textLines (escaped.length + 1) escaped
  skipTo left
  return if body.isEmpty then "" else String.ofList text ++ "\n"

/-- The parts of a text that is put in for what an expression covers. -/
def parts : Nat → List Char → List Part
  | 0, _ | _, [] => []
  | fuel + 1, '\\' :: c :: rest =>
    let part : Part := match c with
      | 'L' => .casing .lower
      | 'U' => .casing .upper
      | 'E' => .casing .asIs
      | 'l' => .casing .nextLower
      | 'u' => .casing .nextUpper
      | 'n' => .text '\n'
      | _ => if c.isDigit then .group (c.toNat - '0'.toNat) else .text c
    part :: parts fuel rest
  | fuel + 1, c :: rest => (if c = '&' then .group 0 else .text c) :: parts fuel rest

def fileName : Read String := do
  skipWhile isGap
  let name ← takeWhile (· != '\n')
  let _ ← take
  return String.ofList name

/-- The flags behind a substitution; the first answer tells whether case matters. -/
def substitutionFlags : Nat → Bool → Substitution → Read (Bool × Substitution)
  | 0, folds, s => return (folds, s)
  | fuel + 1, folds, s => do
    match ← peek with
    | none | some '\n' | some ';' | some '}' | some '#' => return (folds, s)
    | some c =>
      if c.isDigit then
        let n := (← number?).getD 0
        if n = 0 then fault "number option to \u0060s' command may not be zero"
        if s.which.isSome then fault "multiple number options to \u0060s' command"
        substitutionFlags fuel folds { s with which := some n }
      else
        let _ ← take
        match c with
        | 'g' =>
          if s.all then fault "multiple \u0060g' options to \u0060s' command"
          substitutionFlags fuel folds { s with all := true }
        | 'p' =>
          if s.prints then fault "multiple \u0060p' options to \u0060s' command"
          substitutionFlags fuel folds { s with prints := true }
        | 'i' | 'I' => substitutionFlags fuel true s
        | 'm' | 'M' | 'e' | ' ' | '\t' => substitutionFlags fuel folds s
        | 'w' => return (folds, { s with target := some (← fileName) })
        | _ => fault "unknown option to \u0060s'"

/-- The greatest number of a group that an expression has. -/
def groupCount : Regex → Nat
  | .seq a b | .alt a b => max (groupCount a) (groupCount b)
  | .times _ _ r => groupCount r
  | .group n r => max n (groupCount r)
  | _ => 0

def substitution : Read Action := do
  let complaint := "unterminated \u0060s' command"
  match ← take with
  | none => fault complaint
  | some mark =>
    if mark = '\n' ∨ mark = '\\' then fault complaint
    let pattern ← upTo mark true complaint
    let body ← upTo mark false complaint
    let body := plainEscapes false (body.length + 1) body
    let all := parts (body.length + 1) body
    let (folds, s) ← substitutionFlags ((← get).rest.length + 1) false ⟨none, all, false, none,
      false, none⟩
    let r ← regex folds pattern
    let most := all.foldl (fun n p => match p with
      | .group k => max n k
      | _ => n) 0
    if let some e := r then
      if groupCount e < most then
        fault ("invalid reference \\" ++ toString most ++ " on \u0060s' command's RHS")
    return .substitute { s with regex := r }

/-- The characters of a list in which a backslash hides the mark, itself or a line end. -/
def listChars (mark : Char) : Nat → List Char → List Char
  | 0, _ | _, [] => []
  | fuel + 1, '\\' :: c :: rest =>
    if c = mark ∨ c = '\\' then c :: listChars mark fuel rest
    else if c = 'n' then '\n' :: listChars mark fuel rest
    else '\\' :: c :: listChars mark fuel rest
  | fuel + 1, c :: rest => c :: listChars mark fuel rest

def exchange : Read Action := do
  let complaint := "unterminated \u0060y' command"
  match ← take with
  | none => fault complaint
  | some mark =>
    let first ← upTo mark false complaint
    let second ← upTo mark false complaint
    let chars (cs : List Char) : List Char :=
      listChars mark (cs.length + 1) (plainEscapes false (cs.length + 1) cs)
    let (a, b) := (chars first, chars second)
    if a.length ≠ b.length then fault "strings for \u0060y' command are different lengths"
    orderEnd
    return .exchange (a.zip b)

def labelName : Read String := do
  skipWhile isGap
  let name ← takeWhile fun c => c != ';' && c != '\n' && !isGap c
  return String.ofList name

/-- Reads the action of an order, inside so many braces. -/
def action (depth : Nat) (c : Choice) : Read Action := do
  let plain (a : Action) : Read Action := do
    orderEnd
    return a
  match ← take with
  | none => fault "missing command"
  | some letter =>
    match letter with
    | '{' => return .opening
    | '}' =>
      if depth = 0 ∨ c.first.isSome then fault "unexpected \u0060\x7d'"
      plain .closing
    | 's' =>
      let a ← substitution
      match a with
      | .substitute { target := some _, .. } => return a
      | _ => plain a
    | 'y' => exchange
    | 'd' => plain .delete
    | 'D' => plain .deleteLine
    | 'p' => plain .print
    | 'P' => plain .printLine
    | 'n' => plain .next
    | 'N' => plain .join
    | 'q' | 'Q' =>
      skipWhile isGap
      let status := (← number?).getD 0
      plain (.quit (letter == 'q') status)
    | '=' => plain .number
    | 'l' =>
      skipWhile isGap
      let _ ← number?
      plain .display
    | 'h' => plain .hold
    | 'H' => plain .holdMore
    | 'g' => plain .fetch
    | 'G' => plain .fetchMore
    | 'x' => plain .swap
    | 'z' => plain .clear
    | 'i' => return .insert (← insertion)
    | 'a' => return .append (← insertion)
    | 'c' => return .change (← insertion)
    | ':' =>
      if c.first.isSome then fault ": doesn't want any addresses"
      let name ← labelName
      if name.isEmpty then fault "\":\" lacks a label"
      plain (.label name)
    | 'b' =>
      let name ← labelName
      plain (.jump name)
    | 't' | 'T' =>
      let name ← labelName
      plain (.jumpIf (letter == 't') name)
    | 'r' => return .readFile (← fileName)
    | 'w' => return .writeFile (← fileName)
    | 'W' => return .writeLine (← fileName)
    | 'F' => plain .nameFile
    | 'v' =>
      let _ ← labelName
      plain .skip
    | '#' =>
      if c.first.isSome then fault "comments don't accept any addresses"
      skipWhile (· != '\n')
      return .skip
    | '\n' => fault "missing command"
    | _ => fault ("unknown command: \u0060" ++ String.singleton letter ++ "'")

/-- Reads orders up to the end of the script, inside so many braces. -/
def orders : Nat → Nat → Read (List Order)
  | 0, _ => return []
  | fuel + 1, depth => do
    skipWhile fun c => isSpace c || c == ';'
    if (← peek).isNone then
      if depth > 0 then faultAtStart "unmatched \u0060\x7b'"
      return []
    let c ← choice
    let a ← action depth c
    let depth := match a with
      | .opening => depth + 1
      | .closing => depth - 1
      | _ => depth
    return ⟨c, a⟩ :: (← orders fuel depth)

end Read

/-- The orders that a script spells. -/
def ordersOf (extended : Bool) (script : String) : Except ScriptFault (List Order) := do
  let cs := script.toList
  return (← (Read.orders (cs.length + 1) 0).run ⟨extended, cs, cs.length⟩).1

end Edit

end TaskPipeline.Host
