import TaskPipeline.Host.EditScript
import TaskPipeline.Host.Tool

/-!
Editing streams of lines: `sed` goes through its lines one by one and carries out the orders of a
script on each.
-/

namespace TaskPipeline.Host

open Text

namespace Edit

/-- A line of the stream and the file that it comes from. -/
structure Line where
  text : String
  /-- The line has an end. -/
  ended : Bool := true
  file : String

/-- Why orders are not carried out any more. -/
inductive Halt where
  /-- The next line is to be read. -/
  | cycle (prints : Bool)
  /-- The orders begin again on what is there. -/
  | again
  | quit (prints : Bool) (status : Nat)
  | failed (message : String)

structure Editor where
  orders : List (Nat × Order)
  input : List Line
  current : Line
  number : Nat := 0
  hold : String := ""
  quiet : Bool
  /-- The mark at the end of lines. -/
  mark : String := "\n"
  /-- What was written, the last first. -/
  out : List String := []
  /-- The last line that was written has no end yet. -/
  isOpen : Bool := false
  /-- What is to be written before the next line is read. -/
  queue : List String := []
  replaced : Bool := false
  /-- The runs of lines that have begun, with the numbers of their last lines if these are known. -/
  running : List (Nat × Option Nat) := []
  /-- The expression used last. -/
  regex : Option Regex := none
  written : List (String × String) := []
  /-- The lines of each file are counted as a stream of their own. -/
  separate : Bool := false
  /-- The contents of files that can be read. -/
  contents : String → Option String

abbrev Editing := ExceptT Halt (StateM Editor)

namespace Editing

def emit (text : String) (ended : Bool) : Editing Unit := modify fun e =>
  let front := if e.isOpen then e.mark else ""
  { e with
    out := (front ++ text ++ if ended then e.mark else "") :: e.out
    isOpen := !ended }

/-- Writes a text that may end without an end of its line. -/
def emitRaw (text : String) : Editing Unit := modify fun e =>
  if text.isEmpty then e
  else { e with out := ((if e.isOpen then e.mark else "") ++ text) :: e.out, isOpen := false }

def emitCurrent : Editing Unit := do
  let e ← get
  emit e.current.text e.current.ended

def setText (text : String) : Editing Unit :=
  modify fun e => { e with current := { e.current with text := text } }

/-- The present line is the last one. -/
def isLast (e : Editor) : Bool :=
  e.input.isEmpty || e.separate && e.input.head?.any (·.file != e.current.file)

/-- Writes what was put off. -/
def flush : Editing Unit := do
  let queue := (← get).queue
  modify fun e => { e with queue := [] }
  for text in queue do emitRaw text

def writeTo (name text : String) : Editing Unit := do
  if name = "/dev/stdout" then emitRaw text
  else
    modify fun e =>
      let old := (e.written.lookup name).getD ""
      { e with written := (name, old ++ text) :: e.written.filter (·.1 != name) }

/-- The expression that is meant: the one given, or the one used last. -/
def usedRegex (r : Option Regex) : Editing Regex := do
  match r with
  | some r =>
    modify fun e => { e with regex := some r }
    return r
  | none =>
    match (← get).regex with
    | some r => return r
    | none => throw (.failed "-e expression #1, char 0: no previous regular expression")

/-! ## The lines that an order is for -/

def isAt (a : Address) : Editing Bool := do
  let e ← get
  match a with
  | .line n => return e.number == n
  | .every first step =>
    return if step = 0 then e.number == first
      else decide (first ≤ e.number) && (e.number - first) % step == 0
  | .last => return isLast e
  | .like r => return (← usedRegex r).foundIn e.current.text.toList

def begin (n : Nat) (stop : Option Nat) : Editing Unit :=
  modify fun e => { e with running := (n, stop) :: e.running.filter (·.1 != n) }

def finish (n : Nat) : Editing Unit :=
  modify fun e => { e with running := e.running.filter (·.1 != n) }

/-- The present line begins a run. -/
def beginsRun (n : Nat) (first : Address) (stop : RunEnd) : Editing Bool := do
  if !(← isAt first) then return false
  let number := (← get).number
  let last? : Option Nat := match stop with
    | .upTo (.line m) => some m
    | .after k => some (number + k)
    | .multiple k => some (if k = 0 then number else (number + k - 1) / k * k)
    | _ => none
  match last? with
  | some m => if m > number then begin n last?
  | none => begin n none
  return true

/-- The present line is one that an order is for; orders are told apart by their numbers. -/
def concerns (n : Nat) (c : Choice) : Editing Bool := do
  let inside ← match c.first, c.second with
    | none, _ => pure true
    | some a, none => isAt a
    | some a, some stop =>
      match (← get).running.lookup n with
      | none => beginsRun n a stop
      | some (some m) =>
        let number := (← get).number
        if number ≥ m then finish n
        pure (decide (number ≤ m))
      | some none =>
        match stop with
        | .upTo b =>
          if ← isAt b then finish n
          pure true
        | _ => pure true
  return inside != c.negated

/-! ## Substituting -/

/-- A text that is being put together, with what is to be done to the case of what follows. -/
structure Cased where
  done : List Char := []
  lasting : Casing := .asIs
  once : Casing := .asIs

namespace Cased

def put (t : Cased) (cs : List Char) : Cased :=
  cs.foldl (fun t c =>
    let turned := match t.lasting with
      | .upper => c.toUpper
      | .lower => c.toLower
      | _ => c
    let turned := match t.once with
      | .nextUpper => c.toUpper
      | .nextLower => c.toLower
      | _ => turned
    { t with done := turned :: t.done, once := .asIs }) t

def change (t : Cased) (c : Casing) : Cased :=
  match c with
  | .nextUpper | .nextLower => { t with once := c }
  | _ => { t with lasting := c, once := .asIs }

end Cased

/-- What is put in for a stretch that an expression covers. -/
def replacement (parts : List Part) (a b : Spot) : List Char :=
  let text := parts.foldl (fun (t : Cased) p =>
    match p with
    | .text c => t.put [c]
    | .group 0 => t.put (a.upTo b)
    | .group n => t.put ((b.groups.lookup n).getD [])
    | .casing c => t.change c) {}
  text.done.reverse

/-- The text with its stretches replaced from the wanted one on, and whether one was. The flag says
that a stretch has ended right here. -/
def replaceFrom (r : Regex) (s : Substitution) : Nat → Nat → Bool → Option Char → List Char →
    List Char × Bool
  | 0, _, _, _, cs => (cs, false)
  | fuel + 1, count, touches, before, cs =>
    match r.findFrom before cs with
    | none => (cs, false)
    | some (a, b) =>
      let skipped := cs.take (cs.length - a.rest.length)
      let covered := a.upTo b
      if covered.isEmpty ∧ touches ∧ skipped.isEmpty then
        match cs with
        | [] => ([], false)
        | c :: rest =>
          let (text, any) := replaceFrom r s fuel count false (some c) rest
          (c :: text, any)
      else
        let wanted := s.which.getD 1
        let isWanted := decide (wanted ≤ count + 1)
        let put := if isWanted then replacement s.parts a b else covered
        let front := skipped ++ put
        if isWanted ∧ !s.all then (front ++ b.rest, true)
        else if covered.isEmpty then
          match b.rest with
          | [] => (front, isWanted)
          | c :: rest =>
            let (text, any) := replaceFrom r s fuel (count + 1) false (some c) rest
            (front ++ c :: text, isWanted || any)
        else
          let (text, any) := replaceFrom r s fuel (count + 1) true b.before b.rest
          (front ++ text, isWanted || any)

def substitute (s : Substitution) : Editing Unit := do
  let r ← usedRegex s.regex
  let cs := (← get).current.text.toList
  let (text, any) := replaceFrom r s (2 * cs.length + 2) 0 false none cs
  if any then
    setText (String.ofList text)
    modify fun e => { e with replaced := true }
    if s.prints then emitCurrent
    match s.target with
    | some name => writeTo name (String.ofList text ++ "\n")
    | none => pure ()

/-! ## Carrying out orders -/

/-- Reads the next line into the place of the present one; false if there is none. -/
def readLine : Editing Bool := do
  flush
  let e ← get
  match e.input with
  | [] => return false
  | line :: rest =>
    let starts := e.separate && line.file != e.current.file
    set { e with
      input := rest
      current := line
      number := if starts then 1 else e.number + 1 }
    return true

/-- A line with its bytes spelled out, as it is shown. -/
def spelled (cs : List Char) : List String :=
  cs.map fun c =>
    match c with
    | '\\' => "\\\\"
    | _ => if isPrintable c then String.singleton c else escapedByte c

/-- Pieces put together to lines of a width, of which all but the last end with a backslash. -/
def wrapped (width : Nat) (pieces : List String) : String :=
  (pieces.foldl (fun (column, text) p =>
    if column + p.length > width - 1 then (p.length, text ++ "\\\n" ++ p)
    else (column + p.length, text ++ p)) (0, "")).2

/-- The orders behind a block that is passed over. -/
def behindBlock : Nat → List (Nat × Order) → List (Nat × Order)
  | _, [] => []
  | depth, o :: rest =>
    match o.2.action with
    | .opening => behindBlock (depth + 1) rest
    | .closing => if depth = 0 then rest else behindBlock (depth - 1) rest
    | _ => behindBlock depth rest

/-- The orders behind a label; all are over if there is no name. -/
def behindLabel (name : String) : Editing (List (Nat × Order)) := do
  if name.isEmpty then return []
  let isIt (o : Nat × Order) : Bool := match o.2.action with
    | .label n => n == name
    | _ => false
  match (← get).orders.dropWhile fun o => !isIt o with
  | _ :: rest => return rest
  | [] => throw (.failed ("can't find label for jump to \u0060" ++ name ++ "'"))

/-- Carries out one action; the answer is where to go on if not behind it. -/
def act (n : Nat) (c : Choice) (a : Action) : Editing (Option (List (Nat × Order))) := do
  let e ← get
  match a with
  | .opening | .closing | .label _ | .skip => pure ()
  | .substitute s => substitute s
  | .exchange pairs => setText (e.current.text.map fun c => (pairs.lookup c).getD c)
  | .delete => throw (.cycle false)
  | .deleteLine =>
    match e.current.text.toList.dropWhile (· != '\n') with
    | _ :: rest =>
      setText (String.ofList rest)
      throw .again
    | [] => throw (.cycle false)
  | .print => emitCurrent
  | .printLine => emit (String.ofList (e.current.text.toList.takeWhile (· != '\n'))) true
  | .next =>
    if e.input.isEmpty then throw (.quit true 0)
    if !e.quiet then emitCurrent
    let _ ← readLine
  | .join =>
    if e.input.isEmpty then throw (.quit true 0)
    let _ ← readLine
    modify fun after => { after with
      current := { after.current with
        text := e.current.text ++ e.mark ++ after.current.text } }
  | .quit prints status => throw (.quit prints status)
  | .number => emit (toString e.number) true
  | .display =>
    emit (wrapped 70 (spelled e.current.text.toList ++ ["$"])) true
  | .hold => set { e with hold := e.current.text }
  | .holdMore => set { e with hold := e.hold ++ e.mark ++ e.current.text }
  | .fetch => setText e.hold
  | .fetchMore => setText (e.current.text ++ e.mark ++ e.hold)
  | .swap =>
    setText e.hold
    modify fun after => { after with hold := e.current.text }
  | .clear => setText ""
  | .insert text => emitRaw text
  | .append text => modify fun e => { e with queue := e.queue ++ [text] }
  | .change text =>
    let ends := c.second.isNone || c.negated || (e.running.lookup n).isNone
    if ends then emitRaw text
    throw (.cycle false)
  | .jump name => return some (← behindLabel name)
  | .jumpIf replaced name =>
    set { e with replaced := if replaced then false else e.replaced }
    if e.replaced = replaced then
      let target ← behindLabel name
      return some target
    if !replaced then modify fun e => { e with replaced := false }
  | .readFile name =>
    match e.contents name with
    | some text => modify fun e => { e with queue := e.queue ++ [text] }
    | none => pure ()
  | .writeFile name => writeTo name (e.current.text ++ "\n")
  | .writeLine name =>
    writeTo name (String.ofList (e.current.text.toList.takeWhile (· != '\n')) ++ "\n")
  | .nameFile => emit e.current.file true
  return none

/-- Carries out orders on the present line. -/
def carryOut : Nat → List (Nat × Order) → Editing Unit
  | 0, _ => throw (.quit false 0)
  | _, [] => pure ()
  | fuel + 1, (n, o) :: rest => do
    if ← concerns n o.choice then
      carryOut fuel ((← act n o.choice o.action).getD rest)
    else
      match o.action with
      | .opening => carryOut fuel (behindBlock 0 rest)
      | _ => carryOut fuel rest

/-- The orders that may be carried out on one line before a script counts as one that never ends. -/
def orderLimit : Nat := 100000

/-- Goes through the lines. The flag says that the present line is already there. The answer is a
status, or what is wrong with an order. -/
def cycles : Nat → Bool → Editing (Except String Nat)
  | 0, _ => return .ok 0
  | fuel + 1, isThere => do
    if !isThere then
      if !(← readLine) then return .ok 0
      modify fun e => { e with replaced := false }
    let orders := (← get).orders
    let halt ← ExceptT.lift (carryOut orderLimit orders).run
    let prints : Editing Unit := do
      if !(← get).quiet then emitCurrent
    match halt with
    | .ok () | .error (.cycle true) =>
      prints
      flush
      cycles fuel false
    | .error (.cycle false) =>
      flush
      cycles fuel false
    | .error .again =>
      flush
      cycles fuel true
    | .error (.quit shows status) =>
      if shows then prints
      flush
      return .ok status
    | .error (.failed message) => return .error message

end Editing

/-! ## The tool -/

/-- The lines of a file. -/
def linesWithEnds (mark file : String) (bytes : List UInt8) : List Line :=
  let parts := (textOf bytes).splitOn mark
  let whole := parts.dropLast.map fun text => (⟨text, true, file⟩ : Line)
  match parts.getLast? with
  | some "" | none => whole
  | some text => whole ++ [⟨text, false, file⟩]

/-- Runs of lines that begin before the first line. -/
def startingRuns (orders : List (Nat × Order)) : List (Nat × Option Nat) :=
  orders.filterMap fun (n, o) =>
    match o.choice.first with
    | some (.line 0) => some (n, none)
    | _ => none

/-- The files that some orders write, the last one first. -/
def targets (orders : List Order) : List String :=
  let all := orders.filterMap fun o => match o.action with
    | .writeFile name | .writeLine name => some name
    | .substitute s => s.target
    | _ => none
  (all.filter (· != "/dev/stdout")).eraseDups.reverse

/-- What comes of lines under some orders: a status or a complaint, and the editor after. -/
def edit (o : Options) (orders : List Order) (contents : String → Option String)
    (lines : List Line) : Except String Nat × Editor :=
  let numbered := (List.range orders.length).zip orders
  let e : Editor := {
    orders := numbered
    input := lines
    current := ⟨"", true, (lines.head?.map (·.file)).getD "-"⟩
    quiet := o.has 'n'
    mark := if o.has 'z' then "\x00" else "\n"
    running := startingRuns numbered
    separate := o.has 's' || o.has 'i'
    contents := contents
    written := (targets orders).map fun name => (name, "") }
  match (Editing.cycles (2 * lines.length + orderLimit) false).run.run e with
  | (.ok result, e) => (result, e)
  | (.error _, e) => (.ok 0, e)
where orderLimit : Nat := 10000

def Editor.outText (e : Editor) : String := String.join e.out.reverse

/-- The label that is missing to one of some jumps. -/
def missingLabel? (orders : List Order) : Option String :=
  let labels := orders.filterMap fun o => match o.action with
    | .label name => some name
    | _ => none
  orders.findSome? fun o =>
    let target := match o.action with
      | .jump name | .jumpIf _ name => name
      | _ => ""
    if target.isEmpty ∨ labels.contains target then none else some target

end Edit

open Edit

/-- Arguments in which the ending of spare copies stands apart from its letter. -/
def splitSpareEnding (args : List String) : List String :=
  args.map fun arg =>
    match arg.toList with
    | '-' :: 'i' :: c :: cs => "--in-place=" ++ String.ofList (c :: cs)
    | _ => arg

/-- The script of some options and arguments, and the names of the files. -/
def scriptAndNames (w : Workpiece) (o : Options) : Except String (String × List String) := do
  let pieces ← (o.found.filter fun p => p.1 == 'e' || p.1 == 'f').mapM fun (c, v) =>
    if c = 'e' then .ok v
    else
      match w.read v with
      | .ok f =>
        let text := textOf f.bytes
        .ok (if text.endsWith "\n" then String.ofList text.toList.dropLast else text)
      | .error text => .error ("couldn't open file " ++ v ++ ": " ++ text)
  match pieces, o.others with
  | [], script :: names => return (script, names)
  | pieces, names => return ("\n".intercalate pieces, names)

/-- Keeps what a script wrote into files, and says which cannot be written. -/
def keepWritten (w : Workpiece) (d : Disk) (written : List (String × String)) : Disk × String :=
  written.reverse.foldl (fun (d, err) (name, text) =>
    match w.write d name (bytesOf text) with
    | .ok d => (d, err)
    | .error why => (d, err ++ w.message ("couldn't open file " ++ name ++ ": " ++ why))) (d, "")

def sed (w : Workpiece) : Toolwork :=
  let table : OptionTable := {
    letters := "nErsuzi"
    withArgument := "efl"
    long := [("--quiet", 'n'), ("--silent", 'n'), ("--expression", 'e'), ("--file", 'f'),
      ("--regexp-extended", 'E'), ("--separate", 's'), ("--in-place", 'i'), ("--null-data", 'z'),
      ("--unbuffered", 'u')] }
  match table.readAll true (w.args.length + 1) (splitSpareEnding w.args) with
  | .error text => .fail 1 (w.message text)
  | .ok o =>
    if o.others.isEmpty ∧ !o.has 'e' ∧ !o.has 'f' then .fail 1 (w.hint)
    else
      match scriptAndNames w o with
      | .error text => .fail 4 (w.message text)
      | .ok (script, names) =>
        match ordersOf (o.has 'E' || o.has 'r') script with
        | .error f =>
          .fail 1 (w.message ("-e expression #1, char " ++ toString f.place ++ ": " ++ f.text))
        | .ok orders =>
          let contents (name : String) : Option String := match w.read name with
            | .ok f => some (textOf f.bytes)
            | .error _ => none
          let mark := if o.has 'z' then "\x00" else "\n"
          let sources := w.sources names
          let err := String.join (sources.filterMap fun (name, source) =>
            match source with
            | .ok _ => none
            | .error "Is a directory" =>
              some (w.message (if o.has 'i' then "couldn't edit " ++ name ++ ": not a regular file"
                else "couldn't read " ++ name ++ ": Is a directory"))
            | .error text => some (w.message ("can't read " ++ name ++ ": " ++ text)))
          let files := sources.filterMap fun (name, source) =>
            match source with
            | .ok f => some (name, f.bytes)
            | .error _ => none
          let status := if err.isEmpty then 0 else 2
          let closed := (targets orders).reverse.findSome? fun name =>
            match w.write w.disk name [] with
            | .ok _ => none
            | .error why => some ("couldn't open file " ++ name ++ ": " ++ why)
          let missing := (missingLabel? orders).map fun name =>
            "can't find label for jump to \u0060" ++ name ++ "'"
          match closed.or missing with
          | some text => .fail 4 (w.message text)
          | none =>
            if o.has 'i' then
              let spare := (o.value? 'i').getD ""
              let (d, failed) := files.foldl (fun (d, failed) (name, bytes) =>
                let (_, e) := edit o orders contents (linesWithEnds mark name bytes)
                let path := w.pathOf name
                let d := if spare.isEmpty then d else d.write (path ++ spare) bytes
                let (d, err) := keepWritten w (d.write path (bytesOf e.outText)) e.written
                (d, failed ++ err)) (w.disk, "")
              { status := if failed.isEmpty then status else 4
                err := err ++ failed
                disk := some d }
            else
              let lines := files.flatMap fun (name, bytes) => linesWithEnds mark name bytes
              let (result, e) := edit o orders contents lines
              let (d, failed) := keepWritten w w.disk e.written
              let (asked, err) := match result with
                | .ok n => (n, err)
                | .error text => (1, err ++ w.message text)
              { status := if !failed.isEmpty then 4 else if asked ≠ 0 then asked else status
                out := .ofText e.outText
                err := err ++ failed
                unread := if Workpiece.readsInput names then some {} else none
                disk := if e.written.isEmpty then none else some d }

end TaskPipeline.Host
