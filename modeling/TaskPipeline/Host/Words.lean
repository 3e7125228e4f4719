import TaskPipeline.Host.Condition
import TaskPipeline.Host.Format
import TaskPipeline.Host.Tool

/-!
Tools that work on the words they are called with: `echo`, `printf`, `printenv`, `yes`, `test`,
`basename`, `dirname` and some that need no words at all.
-/

namespace TaskPipeline.Host

open Toolwork

/-! ## Printing words -/

/-- The letters of the arguments in front that are options of `echo`, and the other arguments. -/
def echoOptions : List String → List Char × List String
  | [] => ([], [])
  | arg :: rest =>
    match arg.toList with
    | '-' :: c :: cs =>
      if (c :: cs).all fun c => "neE".toList.contains c then
        let (found, others) := echoOptions rest
        (c :: cs ++ found, others)
      else ([], arg :: rest)
    | _ => ([], arg :: rest)

def echo (w : Workpiece) : Toolwork :=
  let (found, words) := echoOptions w.args
  let joined := " ".intercalate words
  let escapes := ((found.filter (· != 'n')).getLast?.map (· == 'e')).getD false
  let (text, stop) := if escapes then unescaped .toolEcho joined else (joined.toList, false)
  let ending := if found.contains 'n' ∨ stop then [] else ['\n']
  print (String.ofList (text ++ ending))

def printf (w : Workpiece) : Toolwork :=
  match if w.args.head? = some "--" then w.args.drop 1 else w.args with
  | [] => w.misuse 1 "missing operand"
  | text :: args =>
    let done := format .toolFormat text args
    { status := if done.failed ∨ done.bad then 1 else 0
      out := .ofText (String.ofList done.out)
      err := String.join (done.notes.map w.message) }

def yes (w : Workpiece) : Toolwork :=
  w.withOptions 1 { letters := "" } fun o =>
    let words := if o.others.isEmpty then ["y"] else o.others
    { out := { forever := bytesOf (" ".intercalate words ++ "\n") } }

def printenv (w : Workpiece) : Toolwork :=
  w.withOptions 2 { letters := "0", long := [("--null", '0')] } fun o =>
    let ending := if o.has '0' then "\x00" else "\n"
    if o.others.isEmpty then
      print (String.join (w.environment.map fun (name, v) => name ++ "=" ++ v ++ ending))
    else
      let found := o.others.map fun name => w.environment.lookup name
      { status := if found.all Option.isSome then 0 else 1
        out := .ofText (String.join ((found.filterMap id).map (· ++ ending))) }

/-! ## Conditions -/

def test (base : String) (w : Workpiece) : Toolwork :=
  if base = "[" ∧ w.args.getLast? ≠ some "]" then
    .fail 2 (w.message ("missing " ++ inQuotes "]"))
  else
    let words := if base = "[" then w.args.dropLast else w.args
    match Condition.Tool.holds ⟨w.disk, w.folder⟩ words with
    | .ok v => { status := if v then 0 else 1 }
    | .error text => .fail 2 (w.message text)

/-! ## Parts of paths -/

/-- A text without the slashes at its end. -/
def withoutEndSlashes (s : String) : String :=
  String.ofList (s.toList.reverse.dropWhile (· == '/')).reverse

/-- The last part of a path, without an ending that it has more than. -/
def baseName (ending path : String) : String :=
  let bare := withoutEndSlashes path
  if bare.isEmpty then if path.isEmpty then "" else "/"
  else
    let name := lastPart bare
    if name ≠ ending ∧ name.endsWith ending then
      String.ofList (name.toList.take (name.length - ending.length))
    else name

/-- The path of the folder that a path lies in. -/
def folderName (path : String) : String :=
  let bare := withoutEndSlashes path
  if bare.isEmpty then if path.isEmpty then "." else "/"
  else
    let front := String.ofList (bare.toList.take (bare.length - (lastPart bare).length))
    if front.isEmpty then "."
    else
      let front := withoutEndSlashes front
      if front.isEmpty then "/" else front

def basename (w : Workpiece) : Toolwork :=
  w.withOptions 1 { letters := "az", withArgument := "s", long := [("--multiple", 'a'),
      ("--suffix", 's'), ("--zero", 'z')] } fun o =>
    let ending := if o.has 'z' then "\x00" else "\n"
    let shown (suffix : String) (names : List String) : Toolwork :=
      print (String.join (names.map fun name => baseName suffix name ++ ending))
    match o.others with
    | [] => w.misuse 1 "missing operand"
    | names =>
      if o.has 'a' ∨ o.has 's' then shown ((o.value? 's').getD "") names
      else
        match names with
        | [name, suffix] => shown suffix [name]
        | _ :: _ :: extra :: _ => w.misuse 1 ("extra operand " ++ inQuotes extra)
        | _ => shown "" names

def dirname (w : Workpiece) : Toolwork :=
  w.withOptions 1 { letters := "z", long := [("--zero", 'z')] } fun o =>
    let ending := if o.has 'z' then "\x00" else "\n"
    if o.others.isEmpty then w.misuse 1 "missing operand"
    else print (String.join (o.others.map (folderName · ++ ending)))

/-- The absolute paths of names, the folders of which must be there. -/
def realpath (w : Workpiece) : Toolwork :=
  w.withOptions 1 { letters := "emsqLPz" } fun o =>
    if o.others.isEmpty then w.misuse 1 "missing operand"
    else
      let isThere (name : String) : Bool :=
        let path := w.pathOf name
        !name.isEmpty && (w.disk.reaches path ||
          !o.has 'e' && w.disk.hasFolder (Disk.parent path) || o.has 'm')
      let missing := o.others.filter fun name => !isThere name
      { status := if missing.isEmpty then 0 else 1
        out := .ofText (ofLines ((o.others.filter isThere).map w.pathOf))
        err := if o.has 'q' then "" else
          String.join (missing.map fun name => 
            w.message (quotedName name ++ ": No such file or directory")) }

/-! ## Without words -/

def workingFolder (w : Workpiece) : Toolwork :=
  w.withOptions 1 { letters := "LP" } fun _ => print (w.folder ++ "\n")

/-- Prints a line and takes no words. -/
def tells (line : String) (w : Workpiece) : Toolwork :=
  w.withOptions 1 { letters := "" } fun o =>
    match o.others with
    | [] => print (line ++ "\n")
    | extra :: _ => w.misuse 1 ("extra operand " ++ inQuotes extra)

/-- Tells who runs the program, by number or by name. -/
def userId (w : Workpiece) : Toolwork :=
  w.withOptions 1 { letters := "ugnGr" } fun o =>
    match o.others with
    | name :: _ =>
      if name = "root" then print "uid=0(root) gid=0(root) groups=0(root)\n"
      else .fail 1 (w.message (inQuotes name ++ ": no such user"))
    | [] =>
      if o.has 'u' ∨ o.has 'g' ∨ o.has 'G' then print (if o.has 'n' then "root\n" else "0\n")
      else print "uid=0(root) gid=0(root) groups=0(root)\n"

/-- Tells the paths of programs. -/
def which (w : Workpiece) : Toolwork :=
  w.withOptions 2 { letters := "as" } fun o =>
    let places := ((w.environment.lookup "PATH").getD "").splitOn ":"
    let found := o.others.map fun name => (findProgram w.disk w.folder places name).toOption
    { status := if o.others.isEmpty ∨ found.any Option.isNone then 1 else 0
      out := .ofText (ofLines (found.filterMap id)) }

def uname (w : Workpiece) : Toolwork :=
  w.withOptions 1 { letters := "so", long := [("--kernel-name", 's')] } fun o =>
    match o.others with
    | [] => print ((if o.has 'o' then "GNU/Linux" else "Linux") ++ "\n")
    | extra :: _ => w.misuse 1 ("extra operand " ++ inQuotes extra)

end TaskPipeline.Host
