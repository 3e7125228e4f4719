import TaskPipeline.Host.Tool
import TaskPipeline.Text.Based
import TaskPipeline.Text.Places

/-!
Lines in order: `sort` puts lines into the order of their keys, `uniq` looks at neighbours that are
equal, and `comm` compares two files that are in order.
-/

namespace TaskPipeline.Host

open Text

/-! ## Keys -/

/-- How keys are compared. -/
structure Manner where
  numeric : Bool := false
  general : Bool := false
  human : Bool := false
  folds : Bool := false
  dictionary : Bool := false
  printable : Bool := false
  skipsBlanks : Bool := false
  reversed : Bool := false
  deriving DecidableEq, Repr

def Manner.with (m : Manner) (c : Char) : Option Manner :=
  match c with
  | 'n' => some { m with numeric := true }
  | 'g' => some { m with general := true }
  | 'h' => some { m with human := true }
  | 'f' => some { m with folds := true }
  | 'd' => some { m with dictionary := true }
  | 'i' => some { m with printable := true }
  | 'b' => some { m with skipsBlanks := true }
  | 'r' => some { m with reversed := true }
  | _ => none

/-- A key: from a character of a field to a character of another one. Fields and characters are
counted from one; character zero is the end of a field. -/
structure Key where
  startField : Nat := 1
  startChar : Nat := 1
  endField : Option Nat := none
  endChar : Nat := 0
  manner : Manner := {}
  skipsAtEnd : Bool := false

/-- The fields of a line. Without a separator a field begins with the blanks in front of it. -/
def fieldsOf (separator : Option Char) (line : List Char) : List (List Char) :=
  match separator with
  | some c => ((String.ofList line).splitOn (String.singleton c)).map String.toList
  | none =>
    let isBlank (c : Char) : Bool := c == ' ' || c == '\t'
    let rec cut : Nat → List Char → List (List Char)
      | 0, cs => [cs]
      | fuel + 1, cs =>
        let blanks := cs.takeWhile isBlank
        let word := (cs.drop blanks.length).takeWhile fun c => !isBlank c
        let rest := cs.drop (blanks.length + word.length)
        if rest.isEmpty then [blanks ++ word] else (blanks ++ word) :: cut fuel rest
    cut line.length line

/-- The place in a line at which a field begins. -/
def fieldStart (separator : Option Char) (fields : List (List Char)) (n : Nat) : Nat :=
  let gap := if separator.isSome then 1 else 0
  ((fields.take n).map fun f => f.length + gap).foldl (· + ·) 0

/-- The part of a line that is its key. -/
def Key.of (k : Key) (separator : Option Char) (line : List Char) : List Char :=
  let fields := fieldsOf separator line
  let blanksAt (n : Nat) : Nat :=
    ((line.drop n).takeWhile fun c => c == ' ' || c == '\t').length
  let start := min line.length (fieldStart separator fields (k.startField - 1))
  let start := if k.manner.skipsBlanks then start + blanksAt start else start
  let start := min line.length (start + (k.startChar - 1))
  let stop := match k.endField with
    | none => line.length
    | some n =>
      if k.endChar = 0 then
        let begins := min line.length (fieldStart separator fields (n - 1))
        if n > fields.length then line.length
        else begins + ((fields[n - 1]?).getD []).length
      else
        let begins := min line.length (fieldStart separator fields (n - 1))
        let begins := if k.skipsAtEnd then begins + blanksAt begins else begins
        min line.length (begins + k.endChar)
  (line.take stop).drop start

/-- The number in front of a text, as a quotient. -/
def leadingNumber (cs : List Char) : Int × Nat :=
  let cs := cs.dropWhile fun c => c == ' ' || c == '\t'
  let (negative, cs) := match cs with
    | '-' :: rest => (true, rest)
    | rest => (false, rest)
  let whole := cs.takeWhile Char.isDigit
  let places := match cs.drop whole.length with
    | '.' :: rest => rest.takeWhile Char.isDigit
    | _ => []
  let n : Int := digitsValue (whole ++ places)
  (if negative then -n else n, Nat.pow 10 places.length)

/-- The rank of the unit behind a number. -/
def unitRank (cs : List Char) : Int :=
  let cs := cs.dropWhile fun c => c == ' ' || c == '\t'
  let negative := cs.head? == some '-'
  let rest := (if negative then cs.drop 1 else cs).dropWhile fun c => c.isDigit || c == '.'
  let rank : Int := match rest.head? with
    | some c => match "KMGTPEZY".toList.findIdx? (· == c.toUpper) with
      | some n => ↑n + 1
      | none => 0
    | none => 0
  if (leadingNumber cs).1 = 0 then 0 else if negative then -rank else rank

/-- A measure in front of a text as a key: none is least, and then comes what is no number. -/
def measureRank (cs : List Char) : Int × Int × Nat :=
  match frontMeasure? cs with
  | none => (0, 0, 1)
  | some (.noNumber _, _) => (1, 0, 1)
  | some (.infinite true, _) => (2, 0, 1)
  | some (.finite negative size, _) =>
    (3, if negative then -↑size.upper else ↑size.upper, size.lower)
  | some (.infinite false, _) => (4, 0, 1)

def compareQuotients (a b : Int × Nat) : Ordering := compare (a.1 * ↑b.2) (b.1 * ↑a.2)

def compareTexts (a b : List Char) : Ordering :=
  match a, b with
  | [], [] => .eq
  | [], _ => .lt
  | _, [] => .gt
  | c :: cs, d :: ds => (compare c.toNat d.toNat).then (compareTexts cs ds)

/-- Compares two keys in their manner. -/
def Manner.compare (m : Manner) (a b : List Char) : Ordering :=
  let order :=
    if m.numeric then compareQuotients (leadingNumber a) (leadingNumber b)
    else if m.human then
      (Ord.compare (unitRank a) (unitRank b)).then
        (compareQuotients (leadingNumber a) (leadingNumber b))
    else if m.general then
      let (x, y) := (measureRank a, measureRank b)
      (Ord.compare x.1 y.1).then (compareQuotients x.2 y.2)
    else
      let seen (cs : List Char) : List Char :=
        let cs := if m.dictionary then
            cs.filter fun c => c.isAlphanum || c == ' ' || c == '\t'
          else if m.printable then cs.filter isPrintable
          else cs
        if m.folds then cs.map Char.toUpper else cs
      compareTexts (seen a) (seen b)
  if m.reversed then order.swap else order

/-! ## Sorting -/

structure Sorting where
  keys : List Key
  separator : Option Char := none
  reversed : Bool := false
  /-- Lines with equal keys stay as they are. -/
  keepsTies : Bool := false

def Sorting.compareKeys (s : Sorting) (a b : String) : Ordering :=
  s.keys.foldl (fun order k =>
    order.then (k.manner.compare (k.of s.separator a.toList) (k.of s.separator b.toList))) .eq

def Sorting.compare (s : Sorting) (a b : String) : Ordering :=
  let whole := compareTexts a.toList b.toList
  let last := if s.keepsTies then .eq else if s.reversed then whole.swap else whole
  (s.compareKeys a b).then last

/-- Of lines that are in order, the first of those with equal keys. -/
def Sorting.distinct (s : Sorting) : List String → List String
  | a :: b :: rest =>
    if s.compareKeys a b = .eq then s.distinct (a :: rest) else a :: s.distinct (b :: rest)
  | lines => lines
termination_by lines => lines.length

/-- One end of a key: its field, its character and the letters behind them. -/
def keyEnd (whole : String) (cs : List Char) :
    Except String (Nat × Option Nat × List Char) := do
  let field := cs.takeWhile Char.isDigit
  let rest := cs.drop field.length
  match rest with
  | '.' :: more =>
    let char := more.takeWhile Char.isDigit
    if char.isEmpty then
      throw ("invalid number after '.': invalid count at start of " ++
        inQuotes (String.ofList more))
    return (digitsValue field, some (digitsValue char), more.drop char.length)
  | _ =>
    if field.isEmpty then
      throw ("invalid number at field start: invalid count at start of " ++ inQuotes whole)
    return (digitsValue field, none, rest)

/-- The key that an argument spells. -/
def Key.parse (s : String) : Except String Key := do
  let (field, char, rest) ← keyEnd s s.toList
  let zero (what : String) : String :=
    what ++ " is zero: invalid field specification " ++ inQuotes s
  if field = 0 then throw (zero "field number")
  if char = some 0 then throw (zero "character offset")
  let letters := rest.takeWhile Char.isAlpha
  let read (m : Manner) (letters : List Char) : Except String Manner :=
    match letters.foldlM Manner.with m with
    | some m => .ok m
    | none => .error ("stray character in field spec: invalid field specification " ++ inQuotes s)
  let manner ← read {} letters
  let k : Key := { startField := field, startChar := char.getD 1, manner := manner }
  match rest.drop letters.length with
  | [] => return k
  | ',' :: more =>
    let (field, char, rest) ← keyEnd (String.ofList more) more
    if field = 0 then throw (zero "field number")
    let whole ← read { manner with skipsBlanks := false } rest
    return { k with
      endField := some field
      endChar := char.getD 0
      manner := { whole with skipsBlanks := manner.skipsBlanks }
      skipsAtEnd := whole.skipsBlanks }
  | _ => throw ("stray character in field spec: invalid field specification " ++ inQuotes s)

/-- The sorting that options ask for. -/
def Sorting.ofOptions (o : Options) : Except String Sorting := do
  let letters := (o.found.map (·.1)).filter fun c => "nghfdibr".toList.contains c
  let whole := (letters.foldlM Manner.with ({} : Manner)).getD {}
  let keys ← ((o.found.filter fun p => p.1 == 'k').map (·.2)).mapM Key.parse
  let keys := keys.map fun k =>
    if k.manner = {} ∧ !k.skipsAtEnd then
      { k with manner := whole, skipsAtEnd := whole.skipsBlanks }
    else k
  let separator ← match o.value? 't' with
    | none => pure none
    | some s =>
      match s.toList with
      | [c] => pure (some c)
      | [] => throw "empty tab"
      | ['\\', '0'] => pure (some '\x00')
      | _ => throw ("multi-character tab " ++ inQuotes s)
  return {
    keys := if keys.isEmpty then [{ manner := whole }] else keys
    separator := separator
    reversed := whole.reversed
    keepsTies := o.has 's' || o.has 'u' }

/-- The first line that is out of order, with its number. -/
def disorder? (s : Sorting) (strictly : Bool) : Nat → List String → Option (Nat × String)
  | n, a :: b :: rest =>
    let order := s.compare a b
    if order = .gt ∨ (strictly ∧ order = .eq) then some (n + 1, b)
    else disorder? s strictly (n + 1) (b :: rest)
  | _, _ => none

/-- The lines of all files of a sorting, of which none may be missing. -/
def sortedSources (w : Workpiece) (names : List String) : Except String (List String) := do
  let parts ← (w.sources names).mapM fun (name, source) =>
    match source with
    | .ok f => .ok (linesOf f.bytes)
    | .error text =>
      let what := if text = "Is a directory" then "read failed" else "cannot read"
      .error (what ++ ": " ++ quotedName name ++ ": " ++ text)
  return parts.flatten

def sort (w : Workpiece) : Toolwork :=
  w.withOptions 2 { letters := "bcCdfghimMnrRsuVz", withArgument := "kotST", long :=
      [("--numeric-sort", 'n'), ("--reverse", 'r'), ("--unique", 'u'), ("--ignore-case", 'f'),
        ("--key", 'k'), ("--field-separator", 't'), ("--output", 'o'), ("--stable", 's'),
        ("--check", 'c'), ("--general-numeric-sort", 'g'), ("--human-numeric-sort", 'h'),
        ("--ignore-leading-blanks", 'b'), ("--dictionary-order", 'd')] } fun o =>
    match Sorting.ofOptions o, sortedSources w o.others with
    | .error text, _ | _, .error text => .fail 2 (w.message text)
    | .ok s, .ok lines =>
      let unread := if Workpiece.readsInput o.others then some {} else none
      if o.has 'c' ∨ o.has 'C' then
        match disorder? s (o.has 'u') 1 lines with
        | none => { unread := unread }
        | some (n, line) =>
          let name := o.others.head?.getD "-"
          let text := name ++ ":" ++ toString n ++ ": disorder: " ++ line
          { status := 1, err := if o.has 'C' then "" else w.message text, unread := unread }
      else
        let ordered := lines.mergeSort fun a b => s.compare a b != .gt
        let shown := ofLines (if o.has 'u' then s.distinct ordered else ordered)
        match o.value? 'o' with
        | none => { out := .ofText shown, unread := unread }
        | some name =>
          match w.write w.disk name (bytesOf shown) with
          | .ok d => { unread := unread, disk := some d }
          | .error text => .fail 2 (w.message ("open failed: " ++ quotedName name ++ ": " ++ text))

/-! ## Neighbours -/

/-- Runs of neighbours that are equal in what counts of them. -/
def runsOf (view : String → String) : List String → List (List String)
  | [] => []
  | line :: rest =>
    match runsOf view rest with
    | (next :: run) :: more =>
      if view line = view next then (line :: next :: run) :: more
      else [line] :: (next :: run) :: more
    | runs => [line] :: runs

/-- What counts of a line: without fields and characters in front, and no longer than is wanted. -/
def countedPart (fields chars : Nat) (width : Option Nat) (folds : Bool) (line : String) : String :=
  let rec skip : Nat → List Char → List Char
    | 0, cs => cs
    | n + 1, cs =>
      let isBlank (c : Char) : Bool := c == ' ' || c == '\t'
      skip n ((cs.dropWhile isBlank).dropWhile fun c => !isBlank c)
  let cs := (skip fields line.toList).drop chars
  let cs := match width with
    | some n => cs.take n
    | none => cs
  String.ofList (if folds then cs.map Char.toLower else cs)

def uniq (w : Workpiece) : Toolwork :=
  w.withOptions 1 { letters := "cdDuiz", withArgument := "fsw", long := [("--count", 'c'),
      ("--repeated", 'd'), ("--unique", 'u'), ("--ignore-case", 'i'), ("--skip-fields", 'f'),
      ("--skip-chars", 's'), ("--check-chars", 'w')] } fun o =>
    let number (c : Char) : Option Nat := (o.value? c).bind fun s => digits? s.toList
    let bad := ("fsw".toList.filterMap o.value?).find? fun s => (digits? s.toList).isNone
    match bad, o.others with
    | some s, _ =>
      let what := if o.value? 'f' = some s then "fields to skip" else
        if o.value? 's' = some s then "bytes to skip" else "bytes to compare"
      .fail 1 (w.message (s ++ ": invalid number of " ++ what))
    | none, _ :: _ :: extra :: _ => w.misuse 1 ("extra operand " ++ inQuotes extra)
    | none, names =>
      let name := names.head?.getD "-"
      match w.read name with
      | .error text =>
        let subject := if text = "Is a directory" then "error reading " ++ alwaysQuoted name else quotedName name
        let whole := subject ++ ": " ++ text
        .fail 1 (w.message whole)
      | .ok f =>
        let view := countedPart ((number 'f').getD 0) ((number 's').getD 0) (number 'w') (o.has 'i')
        let wanted (run : List String) : Bool :=
          (!(o.has 'd' || o.has 'D') || run.length > 1) && (!o.has 'u' || run.length == 1)
        let shown := ((runsOf view (linesOf f.bytes)).filter wanted).flatMap fun run =>
          if o.has 'D' then run
          else
            let first := run.head?.getD ""
            let count := toString run.length
            let room := String.ofList (List.replicate (7 - count.length) ' ')
            [if o.has 'c' then room ++ count ++ " " ++ first else first]
        let unread := if name = "-" then some {} else none
        match names with
        | [_, target] =>
          match w.write w.disk target (bytesOf (ofLines shown)) with
          | .ok d => { unread := unread, disk := some d }
          | .error text => .fail 1 (w.message (quotedName target ++ ": " ++ text))
        | _ => { out := .ofText (ofLines shown), unread := unread }

/-- Lines of two files side by side: in the first only, in the second only, or in both. -/
def sides : Nat → List String → List String → List (Nat × String)
  | 0, _, _ => []
  | _, [], bs => bs.map (2, ·)
  | _, as, [] => as.map (1, ·)
  | fuel + 1, a :: as, b :: bs =>
    match compareTexts a.toList b.toList with
    | .eq => (3, a) :: sides fuel as bs
    | .lt => (1, a) :: sides fuel as (b :: bs)
    | .gt => (2, b) :: sides fuel (a :: as) bs

def comm (w : Workpiece) : Toolwork :=
  w.withOptions 1 { letters := "123iz", long := [] } fun o =>
    match o.others with
    | [] => w.misuse 1 "missing operand"
    | [a] => w.misuse 1 ("missing operand after " ++ inQuotes a)
    | [a, b] =>
      match w.read a, w.read b with
      | .error text, _ => .fail 1 (w.message (quotedName a ++ ": " ++ text))
      | _, .error text => .fail 1 (w.message (quotedName b ++ ": " ++ text))
      | .ok f, .ok g =>
        let (xs, ys) := (linesOf f.bytes, linesOf g.bytes)
        let s : Sorting := { keys := [{}] }
        let isHidden (n : Nat) : Bool := o.has (Char.ofNat ('0'.toNat + n))
        let indent (n : Nat) : String :=
          let shownBefore := ([1, 2].filter fun k => k < n && !isHidden k).length
          String.ofList (List.replicate shownBefore '\t')
        let shown := (sides (xs.length + ys.length + 1) xs ys).filter fun p => !isHidden p.1
        let unordered (n : Nat) (lines : List String) : String :=
          if (disorder? s false 1 lines).isSome then
            w.message ("file " ++ toString n ++ " is not in sorted order")
          else ""
        let err := unordered 1 xs ++ unordered 2 ys
        let last := if err.isEmpty then "" else w.message "input is not in sorted order"
        { status := if err.isEmpty then 0 else 1
          out := .ofText (ofLines (shown.map fun (n, line) => indent n ++ line))
          err := err ++ last
          unread := if Workpiece.readsInput [a, b] then some {} else none }
    | _ :: _ :: extra :: _ => w.misuse 1 ("extra operand " ++ inQuotes extra)

end TaskPipeline.Host
