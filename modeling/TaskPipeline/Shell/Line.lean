import TaskPipeline.Shell.Option

/-!
Lines that are read into parameters, and arguments whose letters are gone through one by one.
-/

namespace TaskPipeline.Shell

open Host Sh

/-- A character of a line with the flag that a backslash hides it. -/
abbrev Hidden := Char × Bool

/-- A line of the input: its characters, whether its end was seen, and how many bytes it took.
Unless it is taken as it is, a backslash hides the character behind it, and the end of a line goes
on in the next one. -/
def frontLine (asItIs : Bool) : List UInt8 → List Hidden × Bool × Nat
  | [] => ([], false, 0)
  | b :: rest =>
    let c := Char.ofNat b.toNat
    if c = '\n' then ([], true, 1)
    else if c = '\\' ∧ !asItIs then
      match rest with
      | [] => ([], false, 1)
      | e :: rest =>
        let (line, ended, n) := frontLine asItIs rest
        if e = 10 then (line, ended, n + 2) else ((Char.ofNat e.toNat, true) :: line, ended, n + 2)
    else
      let (line, ended, n) := frontLine asItIs rest
      if b = 0 then (line, ended, n + 1) else ((c, false) :: line, ended, n + 1)

def hiddenText (cs : List Hidden) : String := String.ofList (cs.map (·.1))

/-- What separates words is neither hidden nor anything else. -/
def separates (separators : String) (h : Hidden) : Bool := !h.2 && separators.toList.contains h.1

def separatesBlank (separators : String) (h : Hidden) : Bool :=
  separates separators h && isBlank h.1
where
  isBlank (c : Char) : Bool := c == ' ' || c == '\t' || c == '\n'

/-- The rest of a line for the last parameter: without blanks at its end, and without a separator
there if that is the only one. -/
def lastWord (separators : String) (cs : List Hidden) : List Hidden :=
  let blank := separatesBlank separators
  let kept := cs.reverse.dropWhile blank
  match kept with
  | h :: before =>
    if separates separators h then
      let before := before.dropWhile blank
      if before.any (separates separators) then kept.reverse else before.reverse
    else kept.reverse
  | [] => []

/-- Splits a line among parameters; the last one takes what is left. -/
def shareLine (separators : String) : List String → List Hidden → List (String × String)
  | [], _ => []
  | name :: names, cs =>
    let blank := separatesBlank separators
    let cs := cs.dropWhile blank
    if names.isEmpty then [(name, hiddenText (lastWord separators cs))]
    else
      let word := cs.takeWhile (!separates separators ·)
      let rest := (cs.drop word.length).dropWhile blank
      let rest := match rest with
        | h :: more => if separates separators h then more else rest
        | [] => []
      (name, hiddenText word) :: shareLine separators names rest

/-- Reads a line into parameters. The status is one at the end of the input. -/
def readLine (args : List String) : Sh Nat := do
  let (found, names) ← takeOptions ['r'] ['p'] (args.length + 1) args
  if names.isEmpty then fail "arg count"
  for name in names do
    if !isName name then fail (name ++ ": bad variable name")
  let m ← get
  let f ← input
  let bytes := if f.isEndless then f.take (f.bytes.length + 2 * f.forever.length) else f.bytes
  let (line, ended, n) := frontLine (found.any (·.1 == 'r')) bytes
  setInput (f.drop n)
  for (name, value) in shareLine (m.separators.getD usualSeparators) names line do
    assign name value
  return if ended then 0 else 1

/-! ## Letters of arguments -/

/-- What is found at the next letter of some arguments. -/
structure Letter where
  name : String := "?"
  value : Option String := some ""
  /-- The number of the next argument, and how far its letters have been gone through. -/
  next : Nat
  letterAt : Nat := 0
  warning : Option String := none
  isEnd : Bool := false

/-- Whether a letter is among those that are allowed, and whether it takes an argument. -/
def letterKind? (letters : List Char) (c : Char) : Option Bool :=
  match letters with
  | [] => none
  | d :: rest =>
    let takes := rest.head? = some ':'
    if d = c then some takes else letterKind? rest c

/-- Looks at a letter of an argument, with the letters behind it. -/
def letterOf (allowed : List Char) (args : List String) (next place : Nat) (c : Char)
    (behind : List Char) : Letter :=
  let quiet := allowed.head? = some ':'
  let continued : Nat := if behind.isEmpty then 0 else place + 1
  let name := String.singleton c
  match if c = ':' then none else letterKind? (if quiet then allowed.drop 1 else allowed) c with
  | none =>
    if quiet then { value := some name, next := next, letterAt := continued }
    else
      { value := none
        next := next
        letterAt := continued
        warning := some ("Illegal option -" ++ name) }
  | some false => { name := name, next := next, letterAt := continued }
  | some true =>
    if !behind.isEmpty then { name := name, value := some (String.ofList behind), next := next }
    else
      match args[next - 1]? with
      | some value => { name := name, value := some value, next := next + 1 }
      | none =>
        if quiet then { name := ":", value := some name, next := next }
        else
          { value := none, next := next, warning := some ("No arg for -" ++ name ++ " option") }

/-- Goes to the next letter of some arguments. -/
def nextLetter (allowed : List Char) (args : List String) (next place : Nat) : Letter :=
  let present := (args[next - 2]?.getD "").toList
  match if next ≤ 1 ∨ place = 0 then [] else present.drop place with
  | c :: behind => letterOf allowed args next place c behind
  | [] =>
    match (args[next - 1]?.getD "").toList with
    | ['-', '-'] => { next := next + 1, isEnd := true }
    | '-' :: c :: behind => letterOf allowed args (next + 1) 1 c behind
    | _ => { next := next, isEnd := true }

/-- Goes to the next letter of the arguments and keeps it in a parameter. -/
def getopts (args : List String) : Sh Nat := do
  match args with
  | allowed :: name :: given =>
    let m ← get
    let args := if given.isEmpty then m.args else given
    let next := ((m.lookup "OPTIND").bind fun s => Text.digits? s.toList).getD 1
    let found := nextLetter allowed.toList args (max next 1) m.letterAt
    if !found.isEnd then
      match found.value with
      | some v => assign "OPTARG" v
      | none => modify fun m => m.unset "OPTARG"
    match found.warning with
    | some text => warn (text ++ "\n")
    | none => pure ()
    assign "OPTIND" (toString found.next)
    if !isName name then fail (name ++ ": bad variable name")
    assign name found.name
    modify fun m => { m with letterAt := found.letterAt }
    return if found.isEnd then 1 else 0
  | _ => fail "Usage: getopts optstring var [arg...]"

end TaskPipeline.Shell
