import TaskPipeline.Host.Tool
import TaskPipeline.Shell.Pattern

/-!
Finding files: `find` goes through folders and names what meets a condition.
-/

namespace TaskPipeline.Host

open Text

/-- A condition on something that was found. -/
inductive Finding where
  | always
  | never
  | nameLike (folds : Bool) (pattern : String)
  | pathLike (pattern : String)
  | ofType (letter : Char)
  | isBare
  | size (sign : Ordering) (blocks : Nat) (unit : Nat)
  | runnable
  | print (ending : String)
  | remove
  | prune
  | both (a b : Finding)
  | either (a b : Finding)
  | except (a : Finding)
  deriving Repr

namespace Finding

/-! ## Reading conditions -/

/-- What is left of the words, how deep to go, and whether something is to be done with what is
found. -/
structure Words where
  left : List String
  least : Nat := 0
  most : Option Nat := none
  acts : Bool := false
  deep : Bool := false

abbrev Read := StateT Words (Except String)

def peek : Read (Option String) := do return (← get).left.head?

def skip : Read Unit := modify fun w => { w with left := w.left.drop 1 }

/-- The argument of a condition. -/
def argument (name : String) : Read String := do
  match (← get).left with
  | s :: rest =>
    modify fun w => { w with left := rest }
    return s
  | [] => throw ("missing argument to \u0060" ++ name ++ "'")

def depthOf (name : String) : Read Nat := do
  let s ← argument name
  match digits? s.toList with
  | some n => return n
  | none => throw ("Expected a positive decimal integer argument to " ++ name ++ ", but got " ++
      inQuotes s)

/-- The condition on a size that a text spells. -/
def sizeOf (s : String) : Read Finding := do
  let (sign, cs) : Ordering × List Char := match s.toList with
    | '+' :: cs => (.gt, cs)
    | '-' :: cs => (.lt, cs)
    | cs => (.eq, cs)
  let digits := cs.takeWhile Char.isDigit
  let unit : Option Nat := match cs.drop digits.length with
    | [] | ['b'] => some 512
    | ['c'] => some 1
    | ['w'] => some 2
    | ['k'] => some 1024
    | ['M'] => some 1048576
    | _ => none
  match digits? digits, unit with
  | some n, some u => return .size sign n u
  | _, _ => throw ("invalid -size type \u0060" ++ s ++ "'")

mutual

def alternatives : Nat → Read Finding
  | 0 => return .always
  | fuel + 1 => do
    let a ← conjunction fuel
    match ← peek with
    | some "-o" | some "-or" =>
      skip
      return .either a (← alternatives fuel)
    | _ => return a

def conjunction : Nat → Read Finding
  | 0 => return .always
  | fuel + 1 => do
    let a ← one fuel
    match ← peek with
    | none | some "-o" | some "-or" | some ")" => return a
    | some "-a" | some "-and" =>
      skip
      return .both a (← conjunction fuel)
    | _ => return .both a (← conjunction fuel)

def one : Nat → Read Finding
  | 0 => return .always
  | fuel + 1 => do
    match ← peek with
    | none => return .always
    | some word =>
      skip
      match word with
      | "!" | "-not" => return .except (← one fuel)
      | "(" =>
        let a ← alternatives fuel
        if (← peek) ≠ some ")" then
          throw "invalid expression; I was expecting to find a ')' somewhere but did not see one."
        skip
        return a
      | "-o" | "-or" | "-a" | "-and" =>
        throw ("invalid expression; you have used a binary operator " ++ inQuotes word ++
          " with nothing before it.")
      | "-name" => return .nameLike false (← argument word)
      | "-iname" => return .nameLike true (← argument word)
      | "-path" | "-wholename" => return .pathLike (← argument word)
      | "-type" =>
        let s ← argument word
        match s.toList with
        | [c] =>
          if "bcdflps".toList.contains c then return .ofType c
          else throw ("Unknown argument to -type: " ++ s)
        | _ => throw ("Arguments to -type should contain only one letter")
      | "-empty" => return .isBare
      | "-size" => sizeOf (← argument word)
      | "-executable" => return .runnable
      | "-true" => return .always
      | "-false" => return .never
      | "-print" =>
        modify fun w => { w with acts := true }
        return .print "\n"
      | "-print0" =>
        modify fun w => { w with acts := true }
        return .print "\x00"
      | "-delete" =>
        modify fun w => { w with acts := true, deep := true }
        return .remove
      | "-prune" => return .prune
      | "-depth" =>
        modify fun w => { w with deep := true }
        return .always
      | "-mindepth" =>
        let n ← depthOf word
        modify fun w => { w with least := n }
        return .always
      | "-maxdepth" =>
        let n ← depthOf word
        modify fun w => { w with most := some n }
        return .always
      | _ =>
        if word.startsWith "-" then throw ("unknown predicate \u0060" ++ word ++ "'")
        else throw ("paths must precede expression: \u0060" ++ word ++ "'")

end

/-! ## Meeting conditions -/

/-- What has come of a search so far. -/
structure Found where
  disk : Disk
  out : String := ""
  /-- What lies in the present folder is not gone through. -/
  pruned : Bool := false

/-- Something that was found meets a condition; some conditions do something. -/
def meets (w : Workpiece) (path : String) : Finding → StateM Found Bool
  | .always => return true
  | .never => return false
  | .nameLike folds pattern => do
    let bare := String.ofList (path.toList.reverse.dropWhile (· == '/')).reverse
    let name := if bare.isEmpty then "/" else lastPart bare
    let fold (s : String) : String := if folds then s.map Char.toLower else s
    return Shell.matchesAll (Shell.patternText (fold pattern)) (fold name).toList
  | .pathLike pattern => return Shell.matchesAll (Shell.patternText pattern) path.toList
  | .ofType letter => do
    let isFolder := (← get).disk.hasFolder (w.pathOf path)
    return if letter = 'd' then isFolder else letter == 'f' && !isFolder
  | .isBare => do
    let d := (← get).disk
    let p := w.pathOf path
    return if d.hasFolder p then (d.names p).isEmpty
      else (d.files.lookup p).any List.isEmpty
  | .size sign n unit => do
    let size := (((← get).disk.files.lookup (w.pathOf path)).getD []).length
    return compare ((size + unit - 1) / unit) n == sign
  | .runnable => do
    let d := (← get).disk
    return d.hasFolder (w.pathOf path) || d.canRun (w.pathOf path)
  | .print ending => do
    modify fun f => { f with out := f.out ++ path ++ ending }
    return true
  | .remove => do
    modify fun f => { f with disk := f.disk.remove (w.pathOf path) }
    return true
  | .prune => do
    modify fun f => { f with pruned := true }
    return true
  | .both a b => do if ← meets w path a then meets w path b else return false
  | .either a b => do if ← meets w path a then return true else meets w path b
  | .except a => return !(← meets w path a)

/-- Goes through something and what lies in it. -/
def walk (w : Workpiece) (q : Words) (f : Finding) : Nat → Nat → String → StateM Found Unit
  | 0, _, _ => pure ()
  | fuel + 1, depth, path => do
    let check : StateM Found Unit := do
      if q.least ≤ depth then let _ ← meets w path f
    modify fun found => { found with pruned := false }
    if !q.deep then check
    let found ← get
    let p := w.pathOf path
    if found.disk.hasFolder p ∧ !found.pruned ∧ q.most.all (depth < ·) then
      let front := if path.endsWith "/" then path else path ++ "/"
      for name in found.disk.names p do walk w q f fuel (depth + 1) (front ++ name)
    if q.deep then check

end Finding

/-- A word begins a condition. -/
def beginsCondition (s : String) : Bool :=
  s.startsWith "-" && s.length > 1 || s == "(" || s == "!" || s == ")"

def find (w : Workpiece) : Toolwork :=
  let starts := w.args.takeWhile fun s => !beginsCondition s
  let words := w.args.drop starts.length
  match (Finding.alternatives (2 * words.length + 2)).run { left := words } with
  | .error text => .fail 1 (w.message text)
  | .ok (f, q) =>
    match q.left with
    | _ :: _ => .fail 1 (w.message "invalid expression; you have too many ')'")
    | [] =>
      let f := if q.acts then f else .both f (.print "\n")
      let names := if starts.isEmpty then ["."] else starts
      let isThere (name : String) : Bool := !name.isEmpty && w.disk.reaches (w.pathOf name)
      let missing := names.filter fun name => !isThere name
      let err := String.join (missing.map fun name =>
        w.message (inQuotes name ++ ": No such file or directory"))
      let depth := w.disk.files.length + w.disk.folders.length + 2
      let (_, found) := ((names.filter isThere).forM (Finding.walk w q f depth 0)).run
        { disk := w.disk }
      { status := if err.isEmpty then 0 else 1
        out := .ofText found.out
        err := err
        disk := some found.disk }

/-- The commands that are to be run for what is found, where there are such. -/
def findCommands? (w : Workpiece) : Option (List (List String)) :=
  match w.args.findIdx? (· == "-exec") with
  | none => none
  | some n =>
    let command := (w.args.drop (n + 1)).takeWhile fun s => s != ";" && s != "+"
    let rest := w.args.drop (n + 1 + command.length)
    match rest with
    | [] => none
    | ending :: more =>
      let done := find { w with args := w.args.take n ++ "-print" :: more }
      let paths := linesOf done.out.bytes
      let fill (path : String) : List String := command.map fun s =>
        path.intercalate (s.splitOn "\x7b\x7d")
      some (if ending = ";" then paths.map fill
        else if paths.isEmpty then []
        else [command.flatMap fun s => if s = "\x7b\x7d" then paths else [s]])

end TaskPipeline.Host
