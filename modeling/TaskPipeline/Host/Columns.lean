import TaskPipeline.Host.Excerpt
import TaskPipeline.Host.Format

/-!
Columns: `cut` takes parts out of every line, `paste` puts lines side by side, and `wc` counts
lines, words and bytes and lays the counts out in columns.
-/

namespace TaskPipeline.Host

open Text

/-! ## Parts of lines -/

/-- Places in a line, counted from one; without an end all that follow. -/
structure Span where
  first : Nat
  last : Option Nat

def Span.has (s : Span) (n : Nat) : Bool := s.first ≤ n && s.last.all (n ≤ ·)

/-- The spans that a list spells, of fields or of characters. -/
def spansOf (ofFields : Bool) (list : String) : Except String (List Span) := do
  let what := if ofFields then "invalid field value " else "invalid byte/character position "
  let number (s : String) : Except String Nat :=
    match digits? s.toList with
    | some 0 => .error (if ofFields then "fields are numbered from 1"
        else "byte/character positions are numbered from 1")
    | some n => .ok n
    | none => .error (what ++ inQuotes s)
  let items := (list.map fun c => if c = ' ' ∨ c = '\t' then ',' else c).splitOn ","
  items.mapM fun item =>
    match item.splitOn "-" with
    | [""] => throw (if ofFields then "fields are numbered from 1"
        else "byte/character positions are numbered from 1")
    | [n] => do
      let n ← number n
      return ⟨n, some n⟩
    | ["", ""] => throw "invalid range with no endpoint: -"
    | ["", n] => do return ⟨1, some (← number n)⟩
    | [n, ""] => do return ⟨← number n, none⟩
    | [a, b] => do
      let (a, b) := (← number a, ← number b)
      if b < a then throw "invalid decreasing range"
      return ⟨a, some b⟩
    | _ => throw (if ofFields then "invalid field range" else "invalid byte or character range")

/-- The items at places that are wanted. -/
def itemsAt {α : Type} (spans : List Span) (complement : Bool) (items : List α) : List α :=
  (((List.range items.length).zip items).filter fun (n, _) =>
    spans.any (·.has (n + 1)) != complement).map (·.2)

/-- What is left of a line of fields. -/
def cutFields (spans : List Span) (o : Options) (separator : Char) (line : String) :
    Option String :=
  let mark := String.singleton separator
  if !line.toList.contains separator then if o.has 's' then none else some line
  else
    let kept := itemsAt spans (o.has 'C') (line.splitOn mark)
    some (((o.value? 'O').getD mark).intercalate kept)

/-- What is left of a line of characters. Where runs of characters are to be set apart, a mark
stands between those that are not neighbours. -/
def cutChars (spans : List Span) (o : Options) (line : String) : String :=
  let kept := itemsAt spans (o.has 'C') ((List.range line.length).zip line.toList)
  match o.value? 'O' with
  | none => String.ofList (kept.map (·.2))
  | some mark =>
    let starts (n : Nat) : Bool := spans.any (·.first == n + 1)
    let step (acc : Option Nat × List String) (p : Nat × Char) : Option Nat × List String :=
      let (last, done) := acc
      let gap := match last with
        | none => ""
        | some m => if m + 1 < p.1 ∨ (starts p.1 ∧ !o.has 'C') then mark else ""
      (some p.1, (gap ++ String.singleton p.2) :: done)
    String.join (kept.foldl step (none, [])).2.reverse

def cut (w : Workpiece) : Toolwork :=
  w.withOptions 1 { letters := "nszC", withArgument := "bcfdO", long := [("--bytes", 'b'),
      ("--characters", 'c'), ("--fields", 'f'), ("--delimiter", 'd'), ("--complement", 'C'),
      ("--only-delimited", 's'), ("--output-delimiter", 'O')] } fun o =>
    let lists := o.found.filter fun p => "bcf".toList.contains p.1
    match lists with
    | [] => w.misuse 1 "you must specify a list of bytes, characters, or fields"
    | _ :: _ :: _ => w.misuse 1 "only one list may be specified"
    | [(kind, list)] =>
      let separator := (o.value? 'd').map String.toList
      if separator.any (·.length > 1) then w.misuse 1 "the delimiter must be a single character"
      else if o.has 'd' ∧ kind ≠ 'f' then
        w.misuse 1 "an input delimiter may be specified only when operating on fields"
      else if o.has 's' ∧ kind ≠ 'f' then
        w.misuse 1
          "suppressing non-delimited lines makes sense\n\tonly when operating on fields"
      else
        match spansOf (kind == 'f') list with
        | .error text => w.misuse 1 text
        | .ok spans =>
          let mark := (separator.getD ['\t']).head?.getD '\x00'
          let one (line : String) : Option String :=
            if kind = 'f' then cutFields spans o mark line else some (cutChars spans o line)
          w.transform o.others fun bs => bytesOf (ofLines ((linesOf bs).filterMap one))

/-! ## Lines side by side -/

/-- The separators that are used in turn. -/
def turns (list : String) : List String :=
  let rec read : Nat → List Char → List String
    | 0, _ | _, [] => []
    | fuel + 1, '\\' :: c :: rest =>
      let text := if c = '0' then "" else String.singleton ((letterEscape? c).getD c)
      text :: read fuel rest
    | fuel + 1, c :: rest => String.singleton c :: read fuel rest
  let all := read (list.length + 1) list.toList
  if all.isEmpty then [""] else all

/-- Texts with separators in turn between them. -/
def joinTurns (separators : List String) (texts : List String) : String :=
  let step (acc : Nat × String) (text : String) : Nat × String :=
    let mark := (separators[acc.1 % separators.length]?).getD ""
    (acc.1 + 1, acc.2 ++ mark ++ text)
  match texts with
  | [] => ""
  | first :: rest => (rest.foldl step (0, first)).2

/-- Takes a line from each column, where columns may share the lines of the input. -/
def takeRow : List (Option Nat) → List (List String) → List String × List (List String) × Bool
  | [], pools => ([], pools, false)
  | column :: more, pools =>
    let n := column.getD 0
    match (pools[n]?).getD [] with
    | line :: rest =>
      let (texts, pools, _) := takeRow more (pools.set n rest)
      (line :: texts, pools, true)
    | [] =>
      let (texts, pools, any) := takeRow more pools
      ("" :: texts, pools, any)

def rowsOf (columns : List (Option Nat)) : Nat → List (List String) → List (List String)
  | 0, _ => []
  | fuel + 1, pools =>
    match takeRow columns pools with
    | (row, pools, true) => row :: rowsOf columns fuel pools
    | (_, _, false) => []

def paste (w : Workpiece) : Toolwork :=
  w.withOptions 1 { letters := "sz", withArgument := "d", long := [("--serial", 's'),
      ("--delimiters", 'd')] } fun o =>
    let separators := turns ((o.value? 'd').getD "\t")
    let names := if o.others.isEmpty then ["-"] else o.others
    let unread := if Workpiece.readsInput o.others then some {} else none
    let failure? (p : String × Except String Feed) : Option String := match p.2 with
      | .ok _ => none
      | .error text => some (w.message (quotedName p.1 ++ ": " ++ text))
    let sources := w.sources o.others
    let linesAt (name : String) : List String := match w.read name with
      | .ok f => linesOf f.bytes
      | .error _ => []
    if o.has 's' then
      let dashes := (List.range names.length).filter fun n => names[n]? == some "-"
      let one (n : Nat) (name : String) : String :=
        let lines := if name = "-" ∧ dashes.head? ≠ some n then [] else linesAt name
        joinTurns separators lines ++ "\n"
      let good := ((List.range names.length).zip names).filter fun p =>
        (failure? (p.2, w.read p.2)).isNone
      let err := String.join (sources.filterMap failure?)
      { status := if err.isEmpty then 0 else 1
        out := .ofText (String.join (good.map fun p => one p.1 p.2))
        err := err
        unread := unread }
    else
      match sources.findSome? failure? with
      | some text => .fail 1 text
      | none =>
        let pools := w.input.bytes :: names.map fun name =>
          if name = "-" then [] else bytesOf (ofLines (linesAt name))
        let columns := ((List.range names.length).zip names).map fun p =>
          some (if p.2 = "-" then 0 else p.1 + 1)
        let pools := pools.map linesOf
        let most := (pools.map List.length).foldl (· + ·) 1
        { out := .ofText (ofLines ((rowsOf columns most pools).map (joinTurns separators)))
          unread := unread }

/-! ## Counts -/

/-- The words of some bytes: runs without blanks. -/
def wordCount (bs : List UInt8) : Nat :=
  (bs.foldl (fun (n, inWord) b =>
    let blank := isSpace (Char.ofNat b.toNat)
    (if !blank ∧ !inWord then n + 1 else n, !blank)) (0, false)).1

/-- The length of the longest line as it is shown. -/
def longestLine (bs : List UInt8) : Nat :=
  let width (s : String) : Nat := s.toList.foldl (fun n c =>
    if c = '\t' then n + 8 - n % 8 else if isPrintable c then n + 1 else n) 0
  ((linesOf bs).map width).foldl max 0

/-- The counts of some bytes that options ask for, in their fixed order. -/
def countsOf (kinds : List Char) (bs : List UInt8) : List Nat :=
  kinds.map fun kind => match kind with
    | 'l' => lineCount bs
    | 'w' => wordCount bs
    | 'L' => longestLine bs
    | _ => bs.length

/-- A source whose size is known: a file that is no device. -/
def Workpiece.sizeOf? (w : Workpiece) (name : String) : Option Nat :=
  if name = "-" then if w.inputIsFile then some w.input.bytes.length else none
  else (w.disk.files.lookup (w.pathOf name)).map List.length

def wc (w : Workpiece) : Toolwork :=
  w.withOptions 1 { letters := "lwcmL", long := [("--lines", 'l'), ("--words", 'w'),
      ("--bytes", 'c'), ("--chars", 'm'), ("--max-line-length", 'L')] } fun o =>
    let asked := "lwmcL".toList.filter o.has
    let kinds := if asked.isEmpty then "lwc".toList else asked
    let sources := w.sources o.others
    let there := sources.filter fun p => match p.2 with
      | .ok _ => true
      | .error text => text == "Is a directory"
    let sizes := there.map fun p => w.sizeOf? p.1
    let total := (sizes.filterMap id).foldl (· + ·) 0
    let width :=
      if sources.length = 1 ∧ kinds.length = 1 then 1
      else max (toString total).length (if sizes.any Option.isNone then 7 else 1)
    let line (counts : List Nat) (name : String) : String :=
      " ".intercalate (counts.map fun n => padFront width (toString n)) ++
        (if name.isEmpty then "" else " " ++ name) ++ "\n"
    let title (name : String) : String := if o.others.isEmpty then "" else name
    let (out, err, sums) := sources.foldl (fun (out, err, sums) (name, source) =>
      match source with
      | .ok f =>
        let counts := countsOf kinds f.bytes
        let sums := ((List.range kinds.length).zip (sums.zip counts)).map fun (n, a, b) =>
          if kinds[n]? = some 'L' then max a b else a + b
        (out ++ line counts (title name), err, sums)
      | .error text =>
        let shown := if text = "Is a directory" then line (kinds.map fun _ => 0) name else ""
        (out ++ shown, err ++ w.message (quotedName name ++ ": " ++ text), sums))
      ("", "", kinds.map fun _ => 0)
    { status := if err.isEmpty then 0 else 1
      out := .ofText (if sources.length > 1 then out ++ line sums "total" else out)
      err := err
      unread := if Workpiece.readsInput o.others then some {} else none
      complainsFirst := w.failsFirst o.others }

end TaskPipeline.Host
