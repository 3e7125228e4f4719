import TaskPipeline.Host.Regex
import TaskPipeline.Host.Tool

/-!
Searching files for lines that a regular expression covers a part of: `grep`, with its elder names
`egrep` and `fgrep`.
-/

namespace TaskPipeline.Host

/-- What is wanted of a search. -/
structure Search where
  /-- A stretch of a line that counts. -/
  regex : Regex
  options : Options
  /-- Lines of context before and after. -/
  before : Nat := 0
  after : Nat := 0
  most : Option Nat := none
  /-- The names of the files are shown. -/
  named : Bool := false

namespace Search

def table : OptionTable where
  letters := "EFGPivwxclLqsnohHrRyabzTUZI"
  withArgument := "efmABC"
  long := [("--extended-regexp", 'E'), ("--fixed-strings", 'F'), ("--basic-regexp", 'G'),
    ("--perl-regexp", 'P'), ("--ignore-case", 'i'), ("--invert-match", 'v'),
    ("--word-regexp", 'w'), ("--line-regexp", 'x'), ("--count", 'c'),
    ("--files-with-matches", 'l'), ("--files-without-match", 'L'), ("--quiet", 'q'),
    ("--silent", 'q'), ("--no-messages", 's'), ("--line-number", 'n'), ("--only-matching", 'o'),
    ("--no-filename", 'h'), ("--with-filename", 'H'), ("--recursive", 'r'), ("--regexp", 'e'),
    ("--file", 'f'), ("--max-count", 'm'), ("--after-context", 'A'), ("--before-context", 'B'),
    ("--context", 'C'), ("--color", 'a'), ("--colour", 'a'), ("--text", 'a')]

/-- A line counts. -/
def selects (s : Search) (line : String) : Bool :=
  s.regex.foundIn line.toList != s.options.has 'v'

/-- The stretches of a line that are covered, each with the number of characters before it. -/
def stretches (r : Regex) : Nat → Nat → Option Char → List Char → List (Nat × String)
  | 0, _, _, _ => []
  | fuel + 1, passed, before, cs =>
    match r.findFrom before cs with
    | none => []
    | some (a, b) =>
      let start := passed + (cs.length - a.rest.length)
      let text := a.upTo b
      let next := if text.isEmpty then b.move 1 else b
      let more := if text.isEmpty ∧ b.rest.isEmpty then [] else
        stretches r fuel (passed + (cs.length - next.rest.length)) next.before next.rest
      if text.isEmpty then more else (start, String.ofList text) :: more

/-- The numbered lines that count, as many as are wanted. -/
def found (s : Search) (lines : List String) : List (Nat × String) :=
  let all := ((List.range lines.length).zip lines).filter fun l => s.selects l.2
  match s.most with
  | some n => all.take n
  | none => all

/-- The mark and the number in front of a line that is shown. -/
def front (s : Search) (name : String) (mark : String) (n : Nat) : String :=
  (if s.named then name ++ mark else "") ++
    if s.options.has 'n' then toString (n + 1) ++ mark else ""

/-- The lines that are shown of a file: those that count, with their context. -/
def shown (s : Search) (name : String) (lines : List String) : List String :=
  let hits := (s.found lines).map (·.1)
  let isNear (n : Nat) : Bool := hits.any fun h => h ≤ n + s.before && n ≤ h + s.after
  let hasContext := s.before > 0 || s.after > 0
  let wanted := ((List.range lines.length).zip lines).filter fun l => isNear l.1
  let step (acc : Option Nat × List String) (l : Nat × String) : Option Nat × List String :=
    let gap := if hasContext ∧ acc.1.any (· + 1 < l.1) then ["--"] else []
    let mark := if hits.contains l.1 then ":" else "-"
    (some l.1, (s.front name mark l.1 ++ l.2) :: gap ++ acc.2)
  (wanted.foldl step (none, [])).2.reverse

/-- The stretches that are shown of a file, line by line. -/
def shownStretches (s : Search) (name : String) (lines : List String) : List String :=
  if s.options.has 'v' then []
  else (s.found lines).flatMap fun (n, line) =>
    (stretches s.regex (line.length + 1) 0 none line.toList).map fun (_, text) =>
      s.front name ":" n ++ text

/-- What is printed about one file, and whether something was found in it. -/
def report (s : Search) (name : String) (f : Feed) : String × Bool :=
  let bytes := if s.options.has 'q' ∨ s.options.has 'l' then lineSource f 1
    else lineSource f (s.most.getD 0)
  let lines := linesOf bytes
  let count := (s.found lines).length
  let any := count > 0
  let text :=
    if s.options.has 'q' then ""
    else if s.options.has 'l' then (if any then name ++ "\n" else "")
    else if s.options.has 'L' then (if any then "" else name ++ "\n")
    else if s.options.has 'c' then
      (if s.named then name ++ ":" else "") ++ toString count ++ "\n"
    else if bytes.contains 0 ∧ !s.options.has 'a' then
      if any then "Binary file " ++ name ++ " matches\n" else ""
    else if s.options.has 'o' then ofLines (s.shownStretches name lines)
    else ofLines (s.shown name lines)
  (text, any != s.options.has 'L')

end Search

/-- The expression that some patterns spell together: each of their lines is one. -/
def searchRegex (base : String) (o : Options) (patterns : List String) :
    Except String Regex := do
  let extended := o.has 'E' || o.has 'P' || base == "egrep"
  let literal := o.has 'F' || base == "fgrep"
  let folds := o.has 'i' || o.has 'y'
  let one (text : String) : Except String Regex :=
    if literal then .ok (.ofText folds text.toList)
    else
      match Regex.parse extended folds text.toList with
      | .ok r => .ok r
      | .error e => .error e.message
  let all ← (patterns.flatMap (·.splitOn "\n")).mapM one
  let r := match all with
    | [] => Regex.one { members := [] }
    | r :: rs => rs.foldl .alt r
  if o.has 'x' then return .seq (.edge .lineStart) (.seq r (.edge .lineEnd))
  else if o.has 'w' then
    return .seq (.edge .noLetterBefore) (.seq r (.edge .noLetterAfter))
  else return r

/-- The files in a folder and in those that lie in it. -/
def deepFiles (d : Disk) (folder name : String) : List String :=
  let start := resolve folder name
  let inside := (d.files.map (·.1)).filter fun p => Disk.isIn p start && p != start
  let tail (p : String) : String := String.ofList (p.toList.drop (start.length + 1))
  (inside.map tail).mergeSort fun a b => decide (a ≤ b)

/-- The sources of a search, where folders are gone through if that is wanted. -/
def searchSources (w : Workpiece) (o : Options) (names : List String) :
    List (String × Except String Feed) :=
  let deep := o.has 'r' || o.has 'R'
  if !deep then w.sources names
  else if names.isEmpty then
    (deepFiles w.disk w.folder ".").map fun name => (name, w.read name)
  else names.flatMap fun name =>
    if w.disk.hasFolder (w.pathOf name) then
      (deepFiles w.disk w.folder name).map fun p =>
        let path := if name.endsWith "/" then name ++ p else name ++ "/" ++ p
        (path, w.read path)
    else [(name, w.read name)]

def grep (base : String) (w : Workpiece) : Toolwork :=
  let w := if base = "grep" then w else { w with name := "grep" }
  let hint := "Usage: grep [OPTION]... PATTERNS [FILE]...\n" ++ { w with name := "grep" }.hint
  match Search.table.readAll true (w.args.length + 1) w.args with
  | .error text => .fail 2 (w.message text ++ hint)
  | .ok o =>
    let fromFile (name : String) : List String := match w.read name with
      | .ok f => linesOf f.bytes
      | .error _ => []
    let given := (o.found.filter fun p => p.1 == 'e').map (·.2) ++
      (o.found.filter fun p => p.1 == 'f').flatMap fun p => fromFile p.2
    let isGiven := o.has 'e' || o.has 'f'
    let missing := (o.found.filter fun p => p.1 == 'f').filterMap fun p =>
      match w.read p.2 with
      | .ok _ => none
      | .error text => some (w.message (p.2 ++ ": " ++ text))
    if !missing.isEmpty then .fail 2 (String.join missing)
    else if !isGiven ∧ o.others.isEmpty then .fail 2 hint
    else
      let patterns := if isGiven then given else o.others.take 1
      let names := if isGiven then o.others else o.others.drop 1
      let counts := "ABC".toList.filterMap fun c => o.value? c
      match counts.find? fun s => (Text.digits? s.toList).isNone, searchRegex base o patterns with
      | some bad, _ => .fail 2 (w.message (bad ++ ": invalid context length argument"))
      | none, .error text => .fail 2 (w.message text)
      | none, .ok r =>
        let numberOf (c : Char) : Option Nat := (o.value? c).bind fun s => Text.digits? s.toList
        let both := numberOf 'C'
        let deep := o.has 'r' || o.has 'R'
        let several := names.length > 1 || (deep && (names.isEmpty ||
          names.any fun name => w.disk.hasFolder (w.pathOf name)))
        let s : Search := {
          regex := r
          options := o
          before := ((numberOf 'B').or both).getD 0
          after := ((numberOf 'A').or both).getD 0
          most := numberOf 'm'
          named := o.has 'H' || (several && !o.has 'h') }
        let (out, err, any, failed) := (searchSources w o names).foldl
          (fun (out, err, any, failed) (name, source) =>
            match source with
            | .ok f =>
              let label := if name = "-" then "(standard input)" else name
              let (text, hit) := s.report label f
              (out ++ text, err, any || hit, failed)
            | .error text =>
              let told := if o.has 's' then "" else w.message (name ++ ": " ++ text)
              (out, err ++ told, any, true)) ("", "", false, false)
        { status := if failed ∧ !(o.has 'q' ∧ any) then 2 else if any then 0 else 1
          out := .ofText out
          err := err
          unread := if Workpiece.readsInput names then some {} else none
          complainsFirst := w.failsFirst names }

end TaskPipeline.Host
