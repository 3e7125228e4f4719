import TaskPipeline.Host.Tool
import TaskPipeline.Text.Based

/-!
Tools that show files whole, in part or in another layout: `cat`, `head`, `tail`, `tac`, `rev`,
`nl`, `fold`, `expand` and `tee`.
-/

namespace TaskPipeline.Host

open Toolwork

/-- A text that fills up to a width at the left end. -/
def padFront (width : Nat) (s : String) : String :=
  String.ofList (List.replicate (width - s.length) ' ') ++ s

/-- A text that fills up to a width at the right end. -/
def padBack (width : Nat) (s : String) : String :=
  s ++ String.ofList (List.replicate (width - s.length) ' ')

/-! ## Whole files -/

/-- A byte that cannot be printed, as a mark. -/
def shownByte (tabs : Bool) (c : Char) : String :=
  let n := c.toNat
  let low (k : Nat) : String :=
    if k < 32 then "^" ++ String.singleton (Char.ofNat (k + 64))
    else if k = 127 then "^?"
    else String.singleton (Char.ofNat k)
  if n = 9 then if tabs then "^I" else "\t"
  else if n < 128 then low n
  else "M-" ++ low (n - 128)

/-- The lines of a text, each with its end. -/
def endedLines (s : String) : List String :=
  let lines := s.splitOn "\n"
  lines.dropLast.map (· ++ "\n") ++ lines.getLast?.toList.filter (· != "")

/-- Lays out lines with numbers, marks and fewer blank lines. -/
def showLines (o : Options) (lines : List String) : String :=
  let marksEnds := o.has 'E' || o.has 'A' || o.has 'e'
  let marksTabs := o.has 'T' || o.has 'A' || o.has 't'
  let marksBytes := o.has 'v' || o.has 'A' || o.has 'e' || o.has 't'
  let isBlank (s : String) : Bool := s == "\n"
  let kept := (lines.zip ("" :: lines)).filter fun (s, before) =>
    !(o.has 's' && isBlank s && isBlank before)
  let step (acc : Nat × List String) (s : String) : Nat × List String :=
    let (n, done) := acc
    let counts := if o.has 'b' then !isBlank s else o.has 'n'
    let body := s.toList.filter (· != '\n')
    let ending := if s.endsWith "\n" then (if marksEnds then "$\n" else "\n") else ""
    let shown := String.join (body.map fun c =>
      if c = '\t' then (if marksTabs then "^I" else "\t")
      else if marksBytes then shownByte marksTabs c
      else String.singleton c)
    let front := if counts then padFront 6 (toString (n + 1)) ++ "\t" else ""
    (if counts then n + 1 else n, (front ++ shown ++ ending) :: done)
  String.join ((kept.map (·.1)).foldl step (0, [])).2.reverse

def cat (w : Workpiece) : Toolwork :=
  w.withOptions 1 {
    letters := "AbeEnstTuv"
    long := [("--show-all", 'A'), ("--number", 'n'), ("--number-nonblank", 'b'),
      ("--show-ends", 'E'), ("--squeeze-blank", 's'), ("--show-tabs", 'T')] } fun o =>
    let (f, err) := w.gather o.others
    let plain := o.found.all (·.1 == 'u')
    { status := if err.isEmpty then 0 else 1
      out := if plain then f else .ofText (showLines o (endedLines (textOf f.bytes)))
      err := err
      unread := if Workpiece.readsInput o.others then some {} else none
      complainsFirst := w.failsFirst o.others }

/-! ## Parts of files -/

/-- How much of a file is wanted. -/
structure Portion where
  count : Nat := 10
  /-- All but the last of `head`, from a certain one on of `tail`. -/
  other : Bool := false
  ofBytes : Bool := false
  headings : Option Bool := none
  names : List String := []

/-- A count with a unit perhaps. -/
def countOf? (s : String) : Option Nat :=
  let digits := s.toList.takeWhile Char.isDigit
  let unit : Option Nat := match String.ofList (s.toList.drop digits.length) with
    | "" => some 1
    | "b" => some 512
    | "k" | "K" | "KiB" => some 1024
    | "kB" | "KB" => some 1000
    | "M" | "MiB" => some 1048576
    | "MB" => some 1000000
    | "G" | "GiB" => some 1073741824
    | _ => none
  if digits.isEmpty then none else unit.map (Text.digitsValue digits * ·)

/-- A portion with a count; a sign that a tool heeds turns its meaning around. -/
def Portion.counted (p : Portion) (sign : Char) (ofBytes : Bool) (s : String) :
    Except String Portion :=
  let what := if ofBytes then "bytes" else "lines"
  let (other, bare) := match s.toList with
    | c :: rest =>
      if c = sign then (true, String.ofList rest)
      else if c = '+' ∨ (c = '-' ∧ sign = '+') then (false, String.ofList rest)
      else (false, s)
    | [] => (false, s)
  match countOf? bare with
  | some n => .ok { p with count := n, other := other, ofBytes := ofBytes }
  | none => .error ("invalid number of " ++ what ++ ": " ++ inQuotes s)

/-- The portion that options ask for. -/
def Portion.ofOptions (sign : Char) (o : Options) : Except String Portion :=
  let start : Portion := { names := o.others }
  o.found.foldlM (fun p (c, v) =>
    match c with
    | 'n' => p.counted sign false v
    | 'c' => p.counted sign true v
    | 'q' => .ok { p with headings := some false }
    | 'v' => .ok { p with headings := some true }
    | _ => .ok p) start

/-- Arguments in which a count stands without a letter, in the usual form. -/
def spelledOut (plus : Bool) : List String → List String
  | arg :: rest =>
    match arg.toList with
    | '-' :: c :: ds =>
      if c.isDigit then
        let digits := (c :: ds).takeWhile Char.isDigit
        match (c :: ds).drop digits.length with
        | ['c'] => "-c" :: String.ofList digits :: rest
        | [] | ['l'] => "-n" :: String.ofList digits :: rest
        | _ => arg :: rest
      else arg :: rest
    | '+' :: ds =>
      if plus ∧ !ds.isEmpty ∧ ds.all Char.isDigit then "-n" :: arg :: rest else arg :: rest
    | _ => arg :: rest
  | [] => []

def portionTable : OptionTable where
  letters := "qvzf"
  withArgument := "nc"
  long := [("--lines", 'n'), ("--bytes", 'c'), ("--quiet", 'q'), ("--silent", 'q'),
    ("--verbose", 'v'), ("--follow", 'f')]

/-- Shows a portion of each file, with a heading if there are several. -/
def showPortions (w : Workpiece) (p : Portion) (part : Feed → Feed × Feed) : Toolwork :=
  let headed := p.headings.getD (p.names.length > 1)
  let (out, err, _) := (w.sources p.names).foldl (fun (out, err, isFirst) (name, source) =>
    match source with
    | .ok f =>
      let title := if name = "-" then "standard input" else name
      let heading := (if isFirst then "" else "\n") ++ "==> " ++ title ++ " <==\n"
      let out := if headed then out.append (.ofText heading) else out
      (out.append (part f).1, err, false)
    | .error text =>
      let problem := if text = "Is a directory" then
          "error reading " ++ alwaysQuoted name ++ ": " ++ text
        else "cannot open " ++ alwaysQuoted name ++ " for reading: " ++ text
      (out, err ++ w.message problem, isFirst)) (({} : Feed), "", true)
  { status := if err.isEmpty then 0 else 1
    out := out
    err := err
    unread := if Workpiece.readsInput p.names then some (part w.input).2 else none
    complainsFirst := w.failsFirst p.names }

def Portion.front (p : Portion) (f : Feed) : Feed × Feed :=
  match p.ofBytes, p.other with
  | true, false => ({ bytes := f.take p.count }, f.drop p.count)
  | true, true => ({ f with bytes := f.bytes.take (f.bytes.length - p.count) }, {})
  | false, false =>
    let shown := (splitLines p.count (lineSource f p.count)).1
    ({ bytes := shown }, f.drop shown.length)
  | false, true =>
    ({ f with bytes := (splitLines (lineTotal f.bytes - p.count) f.bytes).1 }, {})

def Portion.back (p : Portion) (f : Feed) : Feed × Feed :=
  match p.ofBytes, p.other with
  | true, false => ({ f with bytes := f.bytes.drop (f.bytes.length - p.count) }, {})
  | true, true => ({ f with bytes := f.bytes.drop (p.count - 1) }, {})
  | false, false =>
    ({ f with bytes := (splitLines (lineTotal f.bytes - p.count) f.bytes).2 }, {})
  | false, true => ({ f with bytes := (splitLines (p.count - 1) f.bytes).2 }, {})

/-- Lets a tool show the portions that its arguments ask for. -/
def portionTool (sign : Char) (w : Workpiece) (part : Portion → Feed → Feed × Feed) : Toolwork :=
  let w := { w with args := spelledOut (sign = '+') w.args }
  w.withOptions 1 portionTable fun o =>
    match Portion.ofOptions sign o with
    | .ok p => showPortions w p (part p)
    | .error text => .fail 1 (w.message text)

def head (w : Workpiece) : Toolwork := portionTool '-' w Portion.front

def tail (w : Workpiece) : Toolwork := portionTool '+' w Portion.back

/-! ## Other layouts -/

def tac (w : Workpiece) : Toolwork :=
  w.withOptions 1 { letters := "b", withArgument := "s" } fun o =>
    let (out, err) := (w.sources o.others).foldl (fun (out, err) (name, source) =>
      match source with
      | .ok f => (out ++ String.join (endedLines (textOf f.bytes)).reverse, err)
      | .error text =>
        (out, err ++ w.message ("failed to open " ++ alwaysQuoted name ++ " for reading: " ++ text)))
      ("", "")
    { status := if err.isEmpty then 0 else 1
      out := .ofText out
      err := err
      unread := if Workpiece.readsInput o.others then some {} else none }

/-- Changes each line by itself. -/
def eachLine (change : String → String) (bs : List UInt8) : List UInt8 :=
  bytesOf (String.join ((endedLines (textOf bs)).map fun s =>
    if s.endsWith "\n" then change (String.ofList s.toList.dropLast) ++ "\n" else change s))

def rev (w : Workpiece) : Toolwork :=
  w.withOptions 1 { letters := "" } fun o =>
    w.transform o.others (eachLine fun s => String.ofList s.toList.reverse)

def nl (w : Workpiece) : Toolwork :=
  w.withOptions 1 { letters := "p", withArgument := "bdfhilnsvw" } fun o =>
    let all := o.value? 'b' == some "a"
    let numbersNone := o.value? 'b' == some "n"
    let width := ((o.value? 'w').bind fun s => Text.digits? s.toList).getD 6
    let first := ((o.value? 'v').bind fun s => Text.digits? s.toList).getD 1
    let step := ((o.value? 'i').bind fun s => Text.digits? s.toList).getD 1
    let gap := (o.value? 's').getD "\t"
    let numeral (n : Nat) : String := match o.value? 'n' with
      | some "ln" => padBack width (toString n)
      | some "rz" => String.ofList (List.replicate (width - (toString n).length) '0') ++ toString n
      | _ => padFront width (toString n)
    w.transform o.others fun bs =>
      let next (acc : Nat × List String) (s : String) : Nat × List String :=
        if !numbersNone ∧ (all ∨ s ≠ "") then (acc.1 + step, (numeral acc.1 ++ gap ++ s) :: acc.2)
        else
          let blank := String.ofList (List.replicate (width + gap.length) ' ')
          (acc.1, (blank ++ s) :: acc.2)
      bytesOf (ofLines ((linesOf bs).foldl next (first, [])).2.reverse)

/-- Breaks a line into pieces of a width, behind blanks where that is asked for. -/
def foldLine (width : Nat) (atBlanks : Bool) : Nat → List Char → List String
  | 0, cs => [String.ofList cs]
  | fuel + 1, cs =>
    if cs.length ≤ width then [String.ofList cs]
    else
      let piece := cs.take width
      let kept := if atBlanks then (piece.reverse.dropWhile (· != ' ')).reverse else piece
      let piece := if kept.isEmpty then piece else kept
      String.ofList piece :: foldLine width atBlanks fuel (cs.drop piece.length)

def fold (w : Workpiece) : Toolwork :=
  w.withOptions 1 { letters := "bs", withArgument := "w", long := [("--width", 'w'),
      ("--spaces", 's')] } fun o =>
    let given := (o.value? 'w').getD "80"
    match Text.digits? given.toList with
    | some (n + 1) =>
      w.transform o.others (eachLine fun s =>
        "\n".intercalate (foldLine (n + 1) (o.has 's') s.length s.toList))
    | some 0 =>
      .fail 1 (w.message ("invalid number of columns: " ++ inQuotes given ++
        ": Numerical result out of range"))
    | none => .fail 1 (w.message ("invalid number of columns: " ++ inQuotes given))

/-- Blanks in the place of tabs up to the next stop. -/
def expandTabs (stop : Nat) : Nat → List Char → List Char
  | _, [] => []
  | column, c :: cs =>
    if c = '\t' then
      let n := stop - column % stop
      List.replicate n ' ' ++ expandTabs stop (column + n) cs
    else c :: expandTabs stop (column + 1) cs

def expand (w : Workpiece) : Toolwork :=
  w.withOptions 1 { letters := "i", withArgument := "t" } fun o =>
    let stop := ((o.value? 't').bind fun s => Text.digits? s.toList).getD 8
    w.transform o.others (eachLine fun s => String.ofList (expandTabs (max stop 1) 0 s.toList))

def tee (w : Workpiece) : Toolwork :=
  w.withOptions 1 { letters := "aip", long := [("--append", 'a')] } fun o =>
    let (d, err) := o.others.foldl (fun (d, err) name =>
      let old := if o.has 'a' then ((d.files.lookup (w.pathOf name)).getD []) else []
      match w.write d name (old ++ w.input.bytes) with
      | .ok d => (d, err)
      | .error text => (d, err ++ w.message (quotedName name ++ ": " ++ text))) (w.disk, "")
    { status := if err.isEmpty then 0 else 1
      out := w.input
      err := err
      unread := some {}
      disk := some d }

end TaskPipeline.Host
