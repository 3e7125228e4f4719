import TaskPipeline.Shell.Signal

/-!
Options: the letters that commands of the shell take, the options of the shell itself, and the
arguments that a shell is called with.
-/

namespace TaskPipeline.Shell

open Host Sh

/-- Takes the options off the front of some arguments; the letters with a colon behind them take an
argument. -/
def takeOptions (letters : List Char) (withArgument : List Char) :
    Nat → List String → Sh (List (Char × String) × List String)
  | 0, args => return ([], args)
  | fuel + 1, args => do
    match args with
    | [] => return ([], [])
    | arg :: rest =>
      match arg.toList with
      | ['-', '-'] => return ([], rest)
      | '-' :: c :: more =>
        if withArgument.contains c then
          let (value, rest) ← match more, rest with
            | _ :: _, _ => pure (String.ofList more, rest)
            | [], value :: rest => pure (value, rest)
            | [], [] => fail ("No arg for -" ++ String.singleton c ++ " option")
          let (found, left) ← takeOptions letters withArgument fuel rest
          return ((c, value) :: found, left)
        else if letters.contains c then
          let next := if more.isEmpty then rest else ("-" ++ String.ofList more) :: rest
          let (found, left) ← takeOptions letters withArgument fuel next
          return ((c, "") :: found, left)
        else fail ("Illegal option -" ++ String.singleton c)
      | _ => return ([], args)

/-- The options of a command of the shell, and its other arguments. -/
def optionsOf (letters : String) (args : List String) : Sh (List Char × List String) := do
  let fuel := (args.map (·.length + 1)).foldl (· + ·) 1
  let (found, left) ← takeOptions letters.toList [] fuel args
  return (found.map (·.1), left)

/-! ## Options of the shell -/

/-- The options of a shell with their letters; two of them have none. -/
def shellOptions : List (String × Option Char) :=
  [("errexit", some 'e'), ("noglob", some 'f'), ("ignoreeof", some 'I'), ("interactive", some 'i'),
    ("monitor", some 'm'), ("noexec", some 'n'), ("stdin", some 's'), ("xtrace", some 'x'),
    ("verbose", some 'v'), ("vi", some 'V'), ("emacs", some 'E'), ("noclobber", some 'C'),
    ("allexport", some 'a'), ("notify", some 'b'), ("nounset", some 'u'), ("nolog", none),
    ("debug", none)]

/-- What arguments ask of a shell. -/
structure Wish where
  on : List Char := []
  off : List Char := []
  /-- A script is given as an argument. -/
  hasScript : Bool := false
  /-- The options are to be shown, as settings or as commands. -/
  shows : Option Bool := none
  /-- The arguments end the options, even if there are no more. -/
  ended : Bool := false
  left : List String := []

/-- Turns an option on or off. -/
def Wish.turn (w : Wish) (on : Bool) (c : Char) : Wish :=
  if on then { w with on := c :: w.on, off := w.off.filter (· != c) }
  else { w with off := c :: w.off, on := w.on.filter (· != c) }

/-- Goes through the letters of one argument. -/
def wishLetters (called on : Bool) :
    Wish → List Char → List String → Except String (Wish × List String)
  | w, [], rest => .ok (w, rest)
  | w, c :: cs, rest =>
    if c = 'c' ∧ called then wishLetters called on { w with hasScript := true } cs rest
    else if c = 'l' ∧ called then wishLetters called on w cs rest
    else if c = 'o' then
      match rest with
      | [] => wishLetters called on { w with shows := some on } cs []
      | name :: rest =>
        match shellOptions.lookup name with
        | some (some letter) => wishLetters called on (w.turn on letter) cs rest
        | some none => wishLetters called on w cs rest
        | none => .error ("Illegal option -o " ++ name)
    else if shellOptions.any (·.2 == some c) then wishLetters called on (w.turn on c) cs rest
    else .error ("Illegal option -" ++ String.singleton c)

/-- What the arguments of a shell, or of the command that sets options, ask for. -/
def wishOf (called : Bool) : Nat → Wish → List String → Except String Wish
  | 0, w, args => .ok { w with left := args }
  | _, w, [] => .ok w
  | fuel + 1, w, arg :: rest =>
    match arg.toList with
    | ['-'] =>
      let w := if called then w else (w.turn false 'x').turn false 'v'
      .ok { w with left := rest }
    | ['-', '-'] => .ok { w with ended := true, left := rest }
    | '-' :: cs => do
      let (w, rest) ← wishLetters called true w cs rest
      wishOf called fuel w rest
    | '+' :: cs => do
      let (w, rest) ← wishLetters called false w cs rest
      wishOf called fuel w rest
    | _ => .ok { w with left := arg :: rest }

def Wish.of (called : Bool) (args : List String) : Except String Wish :=
  wishOf called (args.length + 1) {} args

namespace Machine

def turned (m : Machine) (w : Wish) : Machine :=
  { m with options := w.on ++ m.options.filter fun c => !w.on.contains c && !w.off.contains c }

end Machine

/-- The options as settings or as commands. -/
def shownOptions (m : Machine) (asSettings : Bool) : String :=
  let isOn (letter : Option Char) : Bool := letter.any m.has
  if asSettings then
    "Current option settings\n" ++ String.join (shellOptions.map fun (name, letter) =>
      name ++ String.ofList (List.replicate (16 - name.length) ' ') ++
        (if isOn letter then "on" else "off") ++ "\n")
  else
    String.join (shellOptions.map fun (name, letter) =>
      "set " ++ (if isOn letter then "-" else "+") ++ "o " ++ name ++ "\n")

/-- The parameters and their values, in order of their names. -/
def shownValues (m : Machine) : String :=
  let ordered := m.values.mergeSort fun a b => decide (a.1 ≤ b.1)
  String.join (ordered.map fun (name, v) => name ++ "=" ++ quoteValue v ++ "\n")

/-- Sets options of the shell, or its arguments, or shows what is set. -/
def setOptions (args : List String) : Sh Nat := do
  if args.isEmpty then return ← print (shownValues (← get)).toList
  match Wish.of false args with
  | .error text => fail text
  | .ok w =>
    modify fun m => m.turned w
    if w.ended ∨ !w.left.isEmpty then modify fun m => { m with args := w.left }
    match w.shows with
    | some asSettings => print (shownOptions (← get) asSettings).toList
    | none => return 0

/-! ## Calls -/

/-- How a shell is called: where its script comes from, its name and its arguments. -/
structure Invocation where
  script : Option String := none
  file : Option String := none
  name : String
  args : List String := []
  wish : Wish := {}

/-- What the arguments of a shell ask for, or what is wrong with them. -/
def invocation? (called : String) (args : List String) : Except String Invocation := do
  let w ← Wish.of true args
  if w.hasScript then
    match w.left with
    | [] => throw "-c requires an argument"
    | script :: rest =>
      return {
        script := some script
        name := rest.head?.getD called
        args := rest.drop 1
        wish := w }
  else if w.on.contains 's' then return { name := called, args := w.left, wish := w }
  else
    match w.left with
    | [] => return { name := called, wish := w }
    | file :: rest => return { file := some file, name := file, args := rest, wish := w }

end TaskPipeline.Shell
