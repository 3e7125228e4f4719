import TaskPipeline.Host.Catalog
import TaskPipeline.Host.Quoting

/-!
The tools of a host: programs that read bytes, write bytes, change files and end at once. What a
tool works on and what it does are plain values.
-/

namespace TaskPipeline.Host

/-- What a tool works on: the name it is called by, its arguments, its input, and the files it can
reach. -/
structure Workpiece where
  name : String
  args : List String
  input : Feed := {}
  disk : Disk := {}
  folder : String := "/"
  environment : List (String × String) := []
  /-- The input is a file and no pipe. -/
  inputIsFile : Bool := false

/-- What a tool does: its status, what it writes to either stream, what it leaves of its input where
it reads from it, and the disk where it changes it. -/
structure Toolwork where
  status : Nat := 0
  out : Feed := {}
  err : String := ""
  unread : Option Feed := none
  disk : Option Disk := none
  /-- It complains before it prints anything. -/
  complainsFirst : Bool := false

abbrev Tool := Workpiece → Toolwork

namespace Toolwork

def print (text : String) : Toolwork := { out := .ofText text }

def fail (status : Nat) (text : String) : Toolwork := { status := status, err := text }

end Toolwork

namespace Workpiece

def pathOf (w : Workpiece) (name : String) : String := resolve w.folder name

def hint (w : Workpiece) : String := "Try '" ++ w.name ++ " --help' for more information.\n"

def message (w : Workpiece) (text : String) : String := w.name ++ ": " ++ text ++ "\n"

/-- Says that the arguments make no sense. -/
def misuse (w : Workpiece) (status : Nat) (text : String) : Toolwork :=
  .fail status (w.message text ++ w.hint)

/-! ## Files -/

/-- Why the file with a name cannot be read. -/
def refusal (w : Workpiece) (name : String) : String :=
  let path := w.pathOf name
  if name.isEmpty then "No such file or directory"
  else if w.disk.hasFolder path then "Is a directory"
  else if w.disk.passesFile path then "Not a directory"
  else "No such file or directory"

/-- What reading a name gives, which may be a dash for the input. -/
def read (w : Workpiece) (name : String) : Except String Feed :=
  if name = "-" then .ok w.input
  else
    let path := w.pathOf name
    match w.disk.read? path with
    | some f => if name.endsWith "/" then .error "Not a directory" else .ok f
    | none =>
      if !name.isEmpty ∧ (w.disk.hasFile path ∨ isProgramPath path) then .ok {}
      else .error (w.refusal name)

/-- What reading some names gives, or the input if there are none. -/
def sources (w : Workpiece) (names : List String) : List (String × Except String Feed) :=
  (if names.isEmpty then ["-"] else names).map fun name => (name, w.read name)

/-- The first of some names cannot be read. -/
def failsFirst (w : Workpiece) (names : List String) : Bool :=
  match (w.sources names).head? with
  | some (_, .error _) => true
  | _ => false

/-- The tool reads its input for these names. -/
def readsInput (names : List String) : Bool := names.isEmpty || names.contains "-"

/-- Puts the bytes of all files that can be read together, and complains about the others. -/
def gather (w : Workpiece) (names : List String) : Feed × String :=
  (w.sources names).foldl (fun (f, err) (name, source) =>
    match source with
    | .ok g => (f.append g, err)
    | .error text => (f, err ++ w.message (quotedName name ++ ": " ++ text))) ({}, "")

/-- Writes a file for a tool, or says why it cannot be written. -/
def write (w : Workpiece) (d : Disk) (name : String) (bytes : List UInt8) :
    Except String Disk :=
  let path := w.pathOf name
  if path = "/dev/null" ∨ path.startsWith "/dev/std" ∨ Disk.endlessFiles.contains path then .ok d
  else if name.isEmpty then .error "No such file or directory"
  else if d.hasFolder path then .error "Is a directory"
  else if d.passesFile path then .error "Not a directory"
  else if d.hasFolder (Disk.parent path) then .ok (d.write path bytes)
  else .error "No such file or directory"

/-- Lets a tool turn the bytes of its files into other bytes. -/
def transform (w : Workpiece) (names : List String) (work : List UInt8 → List UInt8) : Toolwork :=
  let (f, err) := w.gather names
  { status := if err.isEmpty then 0 else 1
    out := { bytes := work f.bytes }
    err := err
    unread := if readsInput names then some {} else none
    complainsFirst := w.failsFirst names }

end Workpiece

/-! ## Options -/

/-- The options that a tool takes: letters, letters with an argument, letters with an argument that
may be missing and stands right behind them, and long names for letters. A letter that is no byte
stands for an option that has a long name only. -/
structure OptionTable where
  letters : String
  withArgument : String := ""
  withSuffix : String := ""
  long : List (String × Char) := []

/-- The options that were found, with their arguments, and the other arguments. -/
structure Options where
  found : List (Char × String) := []
  others : List String := []

namespace Options

def has (o : Options) (c : Char) : Bool := o.found.any (·.1 == c)

/-- The argument of the last option with a letter. -/
def value? (o : Options) (c : Char) : Option String := (o.found.reverse.lookup c)

/-- The arguments of all options with a letter. -/
def values (o : Options) (c : Char) : List String := (o.found.filter (·.1 == c)).map (·.2)

/-- The last of some letters that was given. -/
def last? (o : Options) (letters : String) : Option Char :=
  (o.found.reverse.find? fun p => letters.toList.contains p.1).map (·.1)

def add (o : Options) (c : Char) (value : String) : Options :=
  { o with found := (c, value) :: o.found }

end Options

namespace OptionTable

def takesArgument (t : OptionTable) (c : Char) : Bool := t.withArgument.toList.contains c

def takesSuffix (t : OptionTable) (c : Char) : Bool := t.withSuffix.toList.contains c

/-- Goes through the letters of one argument. -/
def readLetters (t : OptionTable) : List Char → List String →
    Except String (List (Char × String) × List String)
  | [], rest => .ok ([], rest)
  | c :: cs, rest =>
    if t.takesSuffix c then .ok ([(c, String.ofList cs)], rest)
    else if t.takesArgument c then
      match cs, rest with
      | _ :: _, _ => .ok ([(c, String.ofList cs)], rest)
      | [], value :: rest => .ok ([(c, value)], rest)
      | [], [] => .error ("option requires an argument -- " ++ betweenQuotes (String.singleton c))
    else if t.letters.toList.contains c then do
      let (found, rest) ← t.readLetters cs rest
      return ((c, "") :: found, rest)
    else .error ("invalid option -- " ++ betweenQuotes (String.singleton c))

/-- The option that a long name or the front of one means. -/
def named (t : OptionTable) (arg name : String) : Except String (String × Char) :=
  match t.long.find? (·.1 == name), t.long.filter fun l => l.1.startsWith name with
  | some l, _ => .ok l
  | none, [] => .error ("unrecognized option " ++ betweenQuotes arg)
  | none, l :: others =>
    if others.all (·.2 == l.2) then .ok l
    else .error ("option " ++ betweenQuotes arg ++ " is ambiguous; possibilities:" ++
      String.join ((l :: others).map fun l => " " ++ betweenQuotes l.1))

/-- Reads an option with a long name. -/
def readLong (t : OptionTable) (arg : String) (rest : List String) :
    Except String ((Char × String) × List String) := do
  let (name, given) := match arg.splitOn "=" with
    | name :: v :: more => (name, some ("=".intercalate (v :: more)))
    | _ => (arg, none)
  let (name, c) ← t.named arg name
  if t.takesArgument c then
    match given, rest with
    | some v, _ => return ((c, v), rest)
    | none, v :: rest => return ((c, v), rest)
    | none, [] => throw ("option " ++ betweenQuotes name ++ " requires an argument")
  else if given.isSome ∧ !t.takesSuffix c then
    throw ("option " ++ betweenQuotes name ++ " doesn't allow an argument")
  else return ((c, given.getD ""), rest)

/-- Reads arguments. Options may stand between the others, up to two dashes. -/
def readAll (t : OptionTable) (mixes : Bool) : Nat → List String → Except String Options
  | 0, _ | _, [] => .ok {}
  | fuel + 1, arg :: rest =>
    match arg.toList with
    | ['-', '-'] => .ok { others := rest }
    | '-' :: '-' :: _ => do
      let ((c, v), rest) ← t.readLong arg rest
      return (← t.readAll mixes fuel rest).add c v
    | '-' :: c :: cs => do
      let (found, rest) ← t.readLetters (c :: cs) rest
      let o ← t.readAll mixes fuel rest
      return { o with found := found ++ o.found }
    | _ =>
      if mixes then do
        let o ← t.readAll mixes fuel rest
        return { o with others := arg :: o.others }
      else .ok { others := arg :: rest }

end OptionTable

/-- Lets a tool work with the options of its arguments, or complains about them. -/
def Workpiece.withOptions (w : Workpiece) (status : Nat) (t : OptionTable)
    (work : Options → Toolwork) : Toolwork :=
  match t.readAll true (w.args.length + 1) w.args with
  | .ok o => work o
  | .error text => w.misuse status text

/-! ## Lines -/

/-- The lines of some bytes without their ends. -/
def linesOf (bs : List UInt8) : List String :=
  let parts := (textOf bs).splitOn "\n"
  if parts.getLast? = some "" then parts.dropLast else parts

/-- Lines with their ends. -/
def ofLines (lines : List String) : String := String.join (lines.map (· ++ "\n"))

/-- The first lines, each with its end, and what follows them. -/
def splitLines : Nat → List UInt8 → List UInt8 × List UInt8
  | 0, bs => ([], bs)
  | _, [] => ([], [])
  | n + 1, b :: bs =>
    let (front, rest) := splitLines (if b = 10 then n else n + 1) bs
    (b :: front, rest)

def lineCount (bs : List UInt8) : Nat := bs.count 10

/-- The number of lines, of which the last one may have no end. -/
def lineTotal (bs : List UInt8) : Nat :=
  lineCount bs + if bs.getLast?.any (· != 10) then 1 else 0

/-- Bytes from the front of a feed that are enough for some lines. -/
def lineSource (f : Feed) (lines : Nat) : List UInt8 :=
  if f.isEndless then f.take (f.bytes.length + (lines + 1) * f.forever.length) else f.bytes

end TaskPipeline.Host
