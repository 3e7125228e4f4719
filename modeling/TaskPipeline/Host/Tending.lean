import TaskPipeline.Host.Tool
import TaskPipeline.Text.Based

/-!
Tools that tend files and folders: `ls`, `mkdir`, `rmdir`, `rm`, `cp`, `mv`, `touch`, `chmod` and
`find`.
-/

namespace TaskPipeline.Host

/-- What a tool has done to the disk so far, and what it has said. -/
structure Tended where
  disk : Disk
  out : String := ""
  err : String := ""

namespace Tended

def say (t : Tended) (text : String) : Tended := { t with out := t.out ++ text ++ "\n" }

def complain (t : Tended) (w : Workpiece) (text : String) : Tended :=
  { t with err := t.err ++ w.message text }

def done (t : Tended) : Toolwork :=
  { status := if t.err.isEmpty then 0 else 1
    out := .ofText t.out
    err := t.err
    disk := some t.disk }

end Tended

namespace Workpiece

/-- The tool at work on a disk that has changed. -/
def on (w : Workpiece) (t : Tended) : Workpiece := { w with disk := t.disk }

/-- Why there is nothing at a name. -/
def absence (w : Workpiece) (name : String) : String :=
  if !name.isEmpty ∧ w.disk.passesFile (w.pathOf name) then "Not a directory"
  else "No such file or directory"

/-- There is something at a name. A name that ends with a slash is that of a folder. -/
def reaches (w : Workpiece) (name : String) : Bool :=
  let path := w.pathOf name
  !name.isEmpty && (w.disk.hasFolder path || w.disk.reaches path && !name.endsWith "/")

def isFolder (w : Workpiece) (name : String) : Bool :=
  !name.isEmpty && w.disk.hasFolder (w.pathOf name)

/-- A folder has nothing in it. -/
def isBare (w : Workpiece) (name : String) : Bool := (w.disk.names (w.pathOf name)).isEmpty

/-- Says that a tool has got no arguments. -/
def wantsOperand (w : Workpiece) : Toolwork := w.misuse 1 "missing operand"

/-- Goes through names one by one. -/
def tend (w : Workpiece) (names : List String) (one : Tended → String → Tended) : Toolwork :=
  (names.foldl one { disk := w.disk }).done

end Workpiece

/-! ## Lists of names -/

/-- The names of a folder in the order and with the marks that options ask for. -/
def listed (w : Workpiece) (o : Options) (folder : String) : List String :=
  let all := w.disk.names (w.pathOf folder)
  let shown := if o.has 'a' ∨ o.has 'A' then all else all.filter (·.front != '.')
  let shown := if o.has 'a' then "." :: ".." :: shown else shown
  if o.has 'r' then shown.reverse else shown

/-- Names as they are laid out. -/
def layNames (w : Workpiece) (o : Options) (folder : String) (names : List String) : String :=
  let mark (name : String) : String :=
    let path := resolve (w.pathOf folder) name
    if w.disk.hasFolder path then if o.has 'p' ∨ o.has 'F' then "/" else ""
    else if o.has 'F' ∧ w.disk.canRun path then "*"
    else ""
  let quote (name : String) : String := if o.has 'Q' then "\"" ++ name ++ "\"" else name
  let shown := names.map fun name => quote name ++ mark name
  if shown.isEmpty then ""
  else if o.has 'm' then ", ".intercalate shown ++ "\n"
  else if (o.has 'x' ∨ o.has 'C') ∧ !o.has '1' then "  ".intercalate shown ++ "\n"
  else ofLines shown

/-- A folder and the folders in it, one after another. -/
def deepFolders (w : Workpiece) (o : Options) : Nat → String → List String
  | 0, name => [name]
  | fuel + 1, name =>
    let inner := (listed w o name).filter fun n =>
      n != "." && n != ".." && w.disk.hasFolder (resolve (w.pathOf name) n)
    name :: inner.flatMap fun n =>
      deepFolders w o fuel (if name.endsWith "/" then name ++ n else name ++ "/" ++ n)

def ls (w : Workpiece) : Toolwork :=
  w.withOptions 2 {
    letters := "aA1dlrRFpmxCQtSUhinsfgoqbckuLHvXGNZ"
    withArgument := "wIT"
    long := [("--all", 'a'), ("--almost-all", 'A'), ("--directory", 'd'), ("--reverse", 'r'),
      ("--recursive", 'R'), ("--classify", 'F'), ("--color", 'q')] } fun o =>
    let names := if o.others.isEmpty then ["."] else o.others
    let sorted := names.mergeSort fun a b => decide (a ≤ b)
    let sorted := if o.has 'r' then sorted.reverse else sorted
    let missing := names.filter fun name => !w.reaches name
    let there := sorted.filter w.reaches
    let plain := there.filter fun name => o.has 'd' || !w.isFolder name
    let folders := there.filter fun name => !o.has 'd' && w.isFolder name
    let folders := if o.has 'R' then
        folders.flatMap (deepFolders w o (w.disk.folders.length + 1))
      else folders
    let headed := names.length > 1 || o.has 'R'
    let part (name : String) : String :=
      (if headed then name ++ ":\n" else "") ++ layNames w o name (listed w o name)
    let front := if plain.isEmpty then [] else [layNames w o "." plain]
    let err := String.join (missing.map fun name =>
      w.message ("cannot access " ++ alwaysQuoted name ++ ": " ++ w.absence name))
    { status := if err.isEmpty then 0 else 2
      out := .ofText ("\n".intercalate (front ++ folders.map part))
      err := err
      complainsFirst := true }

/-! ## Folders -/

/-- The paths of a folder and of those that it lies in, the outermost first. -/
def outwards (name : String) : List String :=
  let parts := (name.splitOn "/").filter (· != "")
  let root := if name.startsWith "/" then "/" else ""
  (List.range parts.length).map fun n => root ++ "/".intercalate (parts.take (n + 1))

def makeFolder (w : Workpiece) (o : Options) (t : Tended) (name : String) : Tended :=
  let w := w.on t
  let refuse (name why : String) : Tended :=
    t.complain w ("cannot create directory " ++ inQuotes name ++ ": " ++ why)
  if w.reaches name then refuse name "File exists"
  else if w.isFolder (Disk.parent (w.pathOf name)) ∧ !name.isEmpty then
    let t := { t with disk := t.disk.addFolders (w.pathOf name) }
    if o.has 'v' then t.say (w.name ++ ": created directory " ++ alwaysQuoted name) else t
  else refuse name (w.absence name)

/-- Makes a folder and those that it lies in where they are missing. -/
def makeFolders (w : Workpiece) (o : Options) (t : Tended) (name : String) : Tended :=
  let paths := outwards name
  let step (acc : Tended × Bool) (path : String) : Tended × Bool :=
    let (t, stopped) := acc
    let w := w.on t
    if stopped ∨ w.isFolder path then acc
    else if w.reaches path then
      let why := if path = paths.getLast?.getD name then "File exists" else "Not a directory"
      (t.complain w ("cannot create directory " ++ inQuotes path ++ ": " ++ why), true)
    else (makeFolder w o t path, false)
  if name.isEmpty then makeFolder w o t name else (paths.foldl step (t, false)).1

def mkdir (w : Workpiece) : Toolwork :=
  w.withOptions 1 { letters := "pv", withArgument := "m", long := [("--parents", 'p'),
      ("--verbose", 'v'), ("--mode", 'm')] } fun o =>
    if o.others.isEmpty then w.wantsOperand
    else w.tend o.others (if o.has 'p' then makeFolders w o else makeFolder w o)

def removeFolder (w : Workpiece) (o : Options) (t : Tended) (name : String) : Tended :=
  let names := if o.has 'p' then (outwards name).reverse else [name]
  let step (acc : Tended × Bool) (name : String) : Tended × Bool :=
    let (t, stopped) := acc
    let w := w.on t
    let refuse (why : String) : Tended × Bool :=
      (t.complain w ("failed to remove " ++ alwaysQuoted name ++ ": " ++ why), true)
    if stopped then acc
    else if !w.isFolder name then
      refuse (if w.disk.reaches (w.pathOf name) ∧ !name.isEmpty then "Not a directory"
        else w.absence name)
    else if !w.isBare name then refuse "Directory not empty"
    else
      let said := if o.has 'v' then t.say (w.name ++ ": removing directory, " ++ alwaysQuoted name)
        else t
      ({ said with disk := t.disk.remove (w.pathOf name) }, false)
  (names.foldl step (t, false)).1

def rmdir (w : Workpiece) : Toolwork :=
  w.withOptions 1 { letters := "pv", long := [("--parents", 'p'), ("--verbose", 'v')] } fun o =>
    if o.others.isEmpty then w.wantsOperand else w.tend o.others (removeFolder w o)

/-! ## Removing, copying and moving -/

def removeFile (w : Workpiece) (o : Options) (t : Tended) (name : String) : Tended :=
  let w := w.on t
  let path := w.pathOf name
  let deep := o.has 'r' || o.has 'R'
  let refuse (why : String) : Tended :=
    t.complain w ("cannot remove " ++ alwaysQuoted name ++ ": " ++ why)
  let tell (t : Tended) (text : String) : Tended := if o.has 'v' then t.say text else t
  let last := lastPart (if name.endsWith "/" then String.ofList name.toList.dropLast else name)
  if !w.reaches name then
    if o.has 'f' ∧ !(name.isEmpty ∨ w.disk.reaches path) then t else refuse (w.absence name)
  else if w.isFolder name then
    if deep then
      if last = "." ∨ last = ".." then
        t.complain w ("refusing to remove '.' or '..' directory: skipping " ++ alwaysQuoted name)
      else tell { t with disk := t.disk.removeDeep path } ("removed directory " ++ alwaysQuoted name)
    else if o.has 'd' then
      if w.isBare name then
        tell { t with disk := t.disk.remove path } ("removed directory " ++ alwaysQuoted name)
      else refuse "Directory not empty"
    else refuse "Is a directory"
  else tell { t with disk := t.disk.remove path } ("removed " ++ alwaysQuoted name)

def rm (w : Workpiece) : Toolwork :=
  w.withOptions 1 { letters := "rRfdviI", long := [("--recursive", 'r'), ("--force", 'f'),
      ("--dir", 'd'), ("--verbose", 'v')] } fun o =>
    if o.others.isEmpty then if o.has 'f' then {} else w.wantsOperand
    else w.tend o.others (removeFile w o)

/-- The path that something is put at: in a folder under its own name, else where it is told. -/
def placeFor (w : Workpiece) (whole : Bool) (source target : String) : String :=
  if w.isFolder target ∧ !whole then
    let bare := String.ofList (source.toList.reverse.dropWhile (· == '/')).reverse
    (if target.endsWith "/" then target else target ++ "/") ++ lastPart bare
  else target

/-- Puts a file or a folder at another place too, or at that place only. -/
def transfer (moves : Bool) (w : Workpiece) (o : Options) (target : String) (t : Tended)
    (source : String) : Tended :=
  let w := w.on t
  let place := placeFor w (o.has 'T') source target
  let (a, b) := (w.pathOf source, w.pathOf place)
  let deep := moves || o.has 'r' || o.has 'R' || o.has 'a'
  let pair := alwaysQuoted source ++ " -> " ++ alwaysQuoted place
  let verb := if moves then "renamed " else ""
  if !w.reaches source then
    t.complain w ("cannot stat " ++ alwaysQuoted source ++ ": " ++ w.absence source)
  else if w.isFolder source ∧ !deep then
    t.complain w ("-r not specified; omitting directory " ++ alwaysQuoted source)
  else if a = b then
    t.complain w (alwaysQuoted source ++ " and " ++ alwaysQuoted place ++ " are the same file")
  else if w.isFolder source ∧ w.disk.reaches b ∧ !w.isFolder place then
    t.complain w ("cannot overwrite non-directory " ++ alwaysQuoted place ++ " with directory " ++
      alwaysQuoted source)
  else if !w.isFolder source ∧ w.isFolder place then
    t.complain w ("cannot overwrite directory " ++ alwaysQuoted place ++ " with non-directory" ++
      if moves then "" else " " ++ alwaysQuoted source)
  else if w.isFolder source ∧ Disk.isIn b a then
    t.complain w (if moves then
        "cannot move " ++ alwaysQuoted source ++ " to a subdirectory of itself, " ++ alwaysQuoted place
      else
        "cannot copy a directory, " ++ alwaysQuoted source ++ ", into itself, " ++ alwaysQuoted place)
  else if !w.isFolder (Disk.parent b) ∨ (place.endsWith "/" ∧ !w.isFolder source) then
    let why := if place.endsWith "/" then "Not a directory" else w.absence place
    t.complain w (if moves then
        "cannot move " ++ alwaysQuoted source ++ " to " ++ alwaysQuoted place ++ ": " ++ why
      else if w.isFolder source then
        "cannot create directory " ++ alwaysQuoted place ++ ": " ++ why
      else "cannot create regular file " ++ alwaysQuoted place ++ ": " ++ why)
  else if o.has 'n' ∧ w.disk.reaches b then t
  else if moves ∧ w.isFolder source ∧ w.isFolder place ∧ !w.isBare place then
    t.complain w ("cannot overwrite " ++ alwaysQuoted place ++ ": Directory not empty")
  else
    let d := if w.isFolder source then t.disk.copyDeep a b
      else
        let bytes := match w.read source with
          | .ok f => f.bytes
          | .error _ => []
        let written := t.disk.write b bytes
        if t.disk.canRun a ∧ (moves ∨ !t.disk.has b) then
          { written with runnable := b :: written.runnable.filter (· != b) }
        else written
    let d := if moves then d.removeDeep a else d
    let t := { t with disk := d }
    if o.has 'v' then t.say (verb ++ pair) else t

/-- Lets a tool transfer its arguments to the last of them. -/
def transferTool (moves : Bool) (letters : String) (w : Workpiece) : Toolwork :=
  w.withOptions 1 { letters := letters, withArgument := "tS", long := [("--recursive", 'r'),
      ("--force", 'f'), ("--verbose", 'v'), ("--no-clobber", 'n'), ("--archive", 'a')] } fun o =>
    match o.value? 't', o.others with
    | _, [] => w.misuse 1 "missing file operand"
    | some target, names => w.tend names (transfer moves w o target)
    | none, [name] => w.misuse 1 ("missing destination file operand after " ++ alwaysQuoted name)
    | none, names =>
      let target := names.getLast?.getD ""
      if names.length > 2 ∧ !w.isFolder target then
        .fail 1 (w.message ("target " ++ alwaysQuoted target ++ ": " ++
          if w.disk.reaches (w.pathOf target) then "Not a directory" else w.absence target))
      else w.tend names.dropLast (transfer moves w o target)

def cp : Tool := transferTool false "rRafinpvTudHLPx"

def mv : Tool := transferTool true "finvTu"

def touch (w : Workpiece) : Toolwork :=
  w.withOptions 1 { letters := "acmfh", withArgument := "drt", long := [("--no-create", 'c'),
      ("--date", 'd'), ("--reference", 'r')] } fun o =>
    if o.others.isEmpty then w.misuse 1 "missing file operand"
    else w.tend o.others fun t name =>
      let w := w.on t
      if w.reaches name then t
      else if name.isEmpty ∨ !w.isFolder (Disk.parent (w.pathOf name)) ∨ name.endsWith "/" then
        if o.has 'c' then t
        else t.complain w ("cannot touch " ++ alwaysQuoted name ++ ": " ++ w.absence name)
      else if o.has 'c' then t
      else { t with disk := t.disk.write (w.pathOf name) [] }

/-! ## Rights -/

/-- Whether a change of rights lets a file be run, if it says anything about that; none if it is no
change of rights. -/
def runRight? (mode : String) : Option (Option Bool) :=
  let clause? (c : String) : Option (Option Bool) :=
    let cs := c.toList.dropWhile fun c => "ugoa".toList.contains c
    match cs with
    | op :: rights =>
      if !"+-=".toList.contains op ∨ !rights.all (fun r => "rwxXst".toList.contains r) then none
      else if op = '=' then some (some (rights.contains 'x'))
      else if rights.contains 'x' then some (some (op == '+'))
      else some none
    | [] => none
  if !mode.isEmpty ∧ mode.toList.all fun c => (Text.digitTo? 8 c).isSome then
    if mode.length > 4 then none
    else some (some (mode.toList.any fun c => c.toNat % 2 == 1))
  else ((mode.splitOn ",").mapM clause?).map fun parts =>
    parts.foldl (fun last p => p.or last) none

/-- Arguments in which a mode that takes rights away is no option. -/
def modeInFront (args : List String) : List String :=
  match args.find? fun a => a.startsWith "-" && a.length > 1 &&
      (a.toList.drop 1).all fun c => "rwxXst,+-=".toList.contains c with
  | some mode => args.filter (· != mode) |> fun rest => "--" :: mode :: rest
  | none => args

def chmod (w : Workpiece) : Toolwork :=
  { w with args := modeInFront w.args }.withOptions 1 { letters := "Rvcf", long :=
      [("--recursive", 'R'), ("--verbose", 'v')] } fun o =>
    match o.others with
    | [] => w.wantsOperand
    | [mode] => w.misuse 1 ("missing operand after " ++ inQuotes mode)
    | mode :: names =>
      match runRight? mode with
      | none => w.misuse 1 ("invalid mode: " ++ inQuotes mode)
      | some right =>
        w.tend names fun t name =>
          let path := w.pathOf name
          let w := w.on t
          if !w.reaches name then
            t.complain w ("cannot access " ++ alwaysQuoted name ++ ": " ++ w.absence name)
          else
            let others := t.disk.runnable.filter (· != path)
            match right with
            | some true => { t with disk := { t.disk with runnable := path :: others } }
            | some false => { t with disk := { t.disk with runnable := others } }
            | none => t

end TaskPipeline.Host
