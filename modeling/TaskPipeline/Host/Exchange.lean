import TaskPipeline.Host.Format
import TaskPipeline.Host.Tool
import TaskPipeline.Text.Family

/-!
Exchanging characters: `tr` puts characters of one list in the place of those of another, removes
characters, and squeezes runs of one character.
-/

namespace TaskPipeline.Host

open Text

/-- An item of a list of characters. -/
inductive Item where
  | one (c : Char)
  | span (first last : Char)
  | family (name : String)
  /-- A character so many times; as often as needed if nothing is said. -/
  | copies (c : Char) (count : Option Nat)
  deriving DecidableEq, Repr

/-- The characters of a text with the flag that a backslash hides their meaning. -/
def hiddenChars : Nat → List Char → List (Char × Bool)
  | 0, _ | _, [] => []
  | fuel + 1, '\\' :: rest =>
    match rest with
    | [] => [('\\', false)]
    | c :: more =>
      let octal := (rest.take 3).takeWhile fun c => (digitTo? 8 c).isSome
      let value := (frontDigits 8 0 octal).1
      if !octal.isEmpty then
        if value < 256 then
          (Char.ofNat value, true) :: hiddenChars fuel (rest.drop octal.length)
        else
          let short := octal.take 2
          (Char.ofNat (frontDigits 8 0 short).1, true) :: hiddenChars fuel (rest.drop 2)
      else
        match letterEscape? c with
        | some e => (e, true) :: hiddenChars fuel more
        | none => (c, true) :: hiddenChars fuel more
  | fuel + 1, c :: rest => (c, false) :: hiddenChars fuel rest

/-- What stands between a mark behind a bracket and the same mark before a bracket. -/
def between? (mark : Char) : List (Char × Bool) → Option (List Char × List (Char × Bool))
  | (c, hidden) :: (d, hiddenEnd) :: rest =>
    if c = mark ∧ !hidden ∧ d = ']' ∧ !hiddenEnd then some ([], rest)
    else (between? mark ((d, hiddenEnd) :: rest)).map fun (name, left) => (c :: name, left)
  | _ => none

/-- The count behind a star in brackets: octal if it begins with a zero. -/
def copyCount? (ds : List Char) : Option (Option Nat) :=
  if ds.isEmpty then some none
  else
    match frontDigits (if ds.head? = some '0' then 8 else 10) 0 ds with
    | (n, []) => some (if n = 0 then none else some n)
    | _ => none

/-- A character as a message shows it. -/
def shownChar (c : Char) : String := if isPrintable c then String.singleton c else escapedByte c

/-- The items that a text spells. -/
def itemsOf : Nat → List (Char × Bool) → Except String (List Item)
  | 0, _ | _, [] => .ok []
  | fuel + 1, (c, hidden) :: rest => do
    let next : Item × List (Char × Bool) ← match c, hidden, rest with
      | '[', false, (':', false) :: more =>
        match between? ':' more with
        | some (name, left) =>
          let name := String.ofList name
          if familyNames.contains name then pure (.family name, left)
          else throw ("invalid character class " ++ inQuotes name)
        | none => pure (.one '[', rest)
      | '[', false, ('=', false) :: more =>
        match between? '=' more with
        | some ([e], left) => pure (.one e, left)
        | some (e, _) => throw (String.ofList e ++
            ": equivalence class operand must be a single character")
        | none => pure (.one '[', rest)
      | '[', false, (d, _) :: ('*', false) :: more =>
        let digits := (more.takeWhile fun p => !(p.1 == ']' && !p.2)).map (·.1)
        match more.drop digits.length with
        | _ :: left =>
          match copyCount? digits with
          | some n => pure (.copies d n, left)
          | none =>
            if digits.all Char.isDigit then
              throw ("invalid repeat count " ++ inQuotes (String.ofList digits) ++
                " in [c*n] construct")
            else pure (.one '[', rest)
        | [] => pure (.one '[', rest)
      | _, _, ('-', false) :: (d, _) :: more =>
        if d < c then
          throw ("range-endpoints of " ++ betweenQuotes (shownChar c ++ "-" ++ shownChar d) ++
            " are in reverse collating sequence order")
        else pure (.span c d, more)
      | _, _, _ => pure (.one c, rest)
    return next.1 :: (← itemsOf fuel next.2)

def itemList (s : String) : Except String (List Item) :=
  itemsOf (s.length + 1) (hiddenChars (s.length + 1) s.toList)

/-- All characters, each of which is one byte. -/
def allBytes : List Char := (List.range 256).map Char.ofNat

def Item.chars : Item → List Char
  | one c => [c]
  | span first last => allBytes.filter fun c => first ≤ c && c ≤ last
  | family name => allBytes.filter (inFamily name)
  | copies c n => List.replicate (n.getD 0) c

/-- The characters of some items, of which those with no count fill up to a length. -/
def filled (length : Nat) (items : List Item) : List Char :=
  let known := (items.flatMap Item.chars).length
  items.flatMap fun item =>
    match item with
    | .copies c none => List.replicate (length - known) c
    | item => item.chars

def isCase (item : Item) : Bool := item == .family "lower" || item == .family "upper"

/-- The pairs of characters that are exchanged. -/
def exchanges (complement truncates : Bool) (first second : List Item) :
    Except String (List (Char × Char)) := do
  let sources := first.flatMap Item.chars
  let sources := if complement then allBytes.filter fun c => !sources.contains c else sources
  let targets := filled sources.length second
  if second.any fun item => match item with
      | .family _ => !isCase item
      | _ => false then
    throw ("when translating, the only character classes that may appear in\n" ++
      "string2 are 'upper' and 'lower'")
  if targets.isEmpty then
    if truncates then return []
    throw "when not truncating set1, string2 must be non-empty"
  let hasFamily := first.any fun item => match item with
    | .family _ => true
    | _ => false
  if complement ∧ hasFamily ∧ (targets.any (· != targets.head?.getD ' ')) ∧ !truncates then
    throw ("when translating with complemented character classes,\n" ++
      "string2 must map all characters in the domain to one")
  let filler := targets.getLast?.getD ' '
  let targets := if truncates then targets
    else targets ++ List.replicate (sources.length - targets.length) filler
  return sources.zip targets

/-- The character that another one becomes; of several pairs the last counts. -/
def exchanged (pairs : List (Char × Char)) (c : Char) : Char :=
  (pairs.reverse.lookup c).getD c

/-- Bytes in which runs of one byte that is to be squeezed are one byte long. -/
def squeezed (wanted : UInt8 → Bool) : Option UInt8 → List UInt8 → List UInt8
  | _, [] => []
  | last, b :: bs =>
    if wanted b ∧ last = some b then squeezed wanted last bs
    else b :: squeezed wanted (some b) bs

def Feed.squeeze (wanted : UInt8 → Bool) (f : Feed) : Feed :=
  let bytes := squeezed wanted none f.bytes
  let forever := squeezed wanted bytes.getLast? f.forever
  { bytes := bytes
    forever := if forever.length < 2 ∧ f.forever.all wanted then [] else forever }

def tr (w : Workpiece) : Toolwork :=
  w.withOptions 1 { letters := "cCdst", long := [("--complement", 'c'), ("--delete", 'd'),
      ("--squeeze-repeats", 's'), ("--truncate-set1", 't')] } fun o =>
    let complement := o.has 'c' || o.has 'C'
    let least := if o.has 'd' = o.has 's' then 2 else 1
    let most := if o.has 'd' ∧ !o.has 's' then 1 else 2
    let given := o.others.length
    if given < least then
      match o.others with
      | [] => w.misuse 1 "missing operand"
      | s :: _ =>
        let why := if o.has 'd' then
            "Two strings must be given when both deleting and squeezing repeats."
          else "Two strings must be given when translating."
        .fail 1 (w.message ("missing operand after " ++ inQuotes s) ++ why ++ "\n" ++ w.hint)
    else if most < given then
      let note := if given = 2 then
          "Only one string may be given when deleting without squeezing repeats.\n"
        else ""
      .fail 1 (w.message ("extra operand " ++ inQuotes (o.others[most]?.getD "")) ++ note ++ w.hint)
    else
      match o.others.mapM itemList with
      | .error text => .fail 1 (w.message text)
      | .ok lists =>
        let first := lists.head?.getD []
        let second := lists[1]?
        let isCopies (item : Item) : Bool := match item with
          | .copies _ _ => true
          | _ => false
        let members := first.flatMap Item.chars
        let charOf (b : UInt8) : Char := Char.ofNat b.toNat
        let inFirst (b : UInt8) : Bool := members.contains (charOf b) != complement
        let inSecond (b : UInt8) : Bool :=
          ((second.map fun items => items.flatMap Item.chars).getD []).contains (charOf b)
        let work (f : Feed) : Toolwork := { out := f, unread := some {} }
        if first.any isCopies then
          .fail 1 (w.message "the [c*] repeat construct may not appear in string1")
        else if o.has 'd' then
          let kept (f : Feed) : Feed :=
            ⟨f.bytes.filter fun b => !inFirst b, f.forever.filter fun b => !inFirst b⟩
          work (if o.has 's' then (kept w.input).squeeze inSecond else kept w.input)
        else
          match second with
          | none => work (w.input.squeeze inFirst)
          | some items =>
            match exchanges complement (o.has 't') first items with
            | .error text => .fail 1 (w.message text)
            | .ok pairs =>
              let table := allBytes.map (exchanged pairs)
              let bytes := (table.map fun c => UInt8.ofNat c.toNat).toArray
              let turned := w.input.map fun b => bytes.getD b.toNat b
              let targets := pairs.map (·.2)
              work (if o.has 's' then turned.squeeze fun b => targets.contains (charOf b)
                else turned)

end TaskPipeline.Host
