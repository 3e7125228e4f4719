import TaskPipeline.Text.Family
import TaskPipeline.Text.Numeral

/-!
Regular expressions as tools read them, in the basic and in the extended way of writing. Of all
stretches that a regular expression covers, the one that starts first counts, and of those the
longest.
-/

namespace TaskPipeline.Host

open Text

/-- A set of characters. -/
structure Letters where
  negated : Bool := false
  members : List Member
  /-- Case does not matter. -/
  folds : Bool := false
  deriving DecidableEq, Repr

def Letters.has (s : Letters) (c : Char) : Bool :=
  (s.members.any fun m => m.has c || s.folds && (m.has c.toLower || m.has c.toUpper)) != s.negated

/-- A place that is recognised by what stands around it. -/
inductive Edge where
  | lineStart
  | lineEnd
  | wordStart
  | wordEnd
  | wordEdge
  | noWordEdge
  | noLetterBefore
  | noLetterAfter
  deriving DecidableEq, Repr

inductive Regex where
  | empty
  | one (letters : Letters)
  | seq (a b : Regex)
  | alt (a b : Regex)
  | times (least : Nat) (most : Option Nat) (r : Regex)
  | group (n : Nat) (r : Regex)
  /-- What a group has covered, once more. -/
  | again (n : Nat)
  | edge (e : Edge)
  deriving DecidableEq, Repr

/-- A place in a text: the character before it, the text after it, and what groups have covered. -/
structure Spot where
  before : Option Char := none
  rest : List Char
  groups : List (Nat × List Char) := []
  deriving DecidableEq, Repr

def isWordLetter (c : Char) : Bool := c.isAlphanum || c == '_'

namespace Edge

def isAt (e : Edge) (s : Spot) : Bool :=
  let before := s.before.any isWordLetter
  let after := s.rest.head?.any isWordLetter
  match e with
  | lineStart => s.before.isNone
  | lineEnd => s.rest.isEmpty
  | wordStart => !before && after
  | wordEnd => before && !after
  | wordEdge => before != after
  | noWordEdge => before == after
  | noLetterBefore => !before
  | noLetterAfter => !after

end Edge

namespace Spot

/-- The place behind some characters. -/
def move (s : Spot) (n : Nat) : Spot :=
  if n = 0 then s else { s with before := s.rest[n - 1]?, rest := s.rest.drop n }

/-- The characters between a place and a later one. -/
def upTo (s t : Spot) : List Char := s.rest.take (s.rest.length - t.rest.length)

end Spot

namespace Regex

/-! ## Matching -/

/-- The ends of a repetition: as many rounds as possible come first. A round beyond the least number
must cover something. -/
def iterate (round : Spot → List Spot) : Nat → Nat → Option Nat → Spot → List Spot
  | 0, _, _, s => [s]
  | fuel + 1, least + 1, most, s =>
    (round s).flatMap (iterate round fuel least (most.map (· - 1)))
  | fuel + 1, 0, most, s =>
    if most = some 0 then [s]
    else
      let further := (round s).filter fun t => t.rest.length < s.rest.length
      further.flatMap (iterate round fuel 0 (most.map (· - 1))) ++ [s]

/-- Where a stretch that the expression covers can end. -/
def ends : Regex → Spot → List Spot
  | empty, s => [s]
  | one letters, s =>
    match s.rest with
    | c :: rest => if letters.has c then [{ s with before := some c, rest := rest }] else []
    | [] => []
  | seq a b, s => (ends a s).flatMap (ends b)
  | alt a b, s => ends a s ++ ends b s
  | times least most r, s => iterate (ends r) (least + s.rest.length + 1) least most s
  | group n r, s => (ends r s).map fun t => { t with groups := (n, s.upTo t) :: t.groups }
  | again n, s =>
    match s.groups.lookup n with
    | some text => if text.isPrefixOf s.rest then [s.move text.length] else []
    | none => []
  | edge e, s => if e.isAt s then [s] else []

/-- The longest stretch that starts here. -/
def longest? (r : Regex) (s : Spot) : Option Spot :=
  (r.ends s).foldl (fun best t =>
    match best with
    | some b => if t.rest.length < b.rest.length then some t else best
    | none => some t) none

/-- The first stretch from here on: where it starts and where it ends. -/
def findFrom (r : Regex) (before : Option Char) : List Char → Option (Spot × Spot)
  | [] =>
    let s : Spot := { before := before, rest := [] }
    (r.longest? s).map (s, ·)
  | c :: rest =>
    let s : Spot := { before := before, rest := c :: rest }
    match r.longest? s with
    | some t => some (s, t)
    | none => r.findFrom (some c) rest

def foundIn (r : Regex) (text : List Char) : Bool := (r.findFrom none text).isSome

end Regex

/-! ## Reading -/

inductive RegexError where
  | openGroup
  | closedGroup
  | openSet
  | openCount
  | badCount
  | bigCount
  | badRange
  | badFamily
  | bareFamily
  | badReference
  | loneBackslash
  deriving DecidableEq, Repr

def RegexError.message : RegexError → String
  | openGroup => "Unmatched ( or \\("
  | closedGroup => "Unmatched ) or \\)"
  | openSet => "Unmatched [, [^, [:, [., or [="
  | openCount => "Unmatched \\\x7b"
  | badCount => "Invalid content of \\\x7b\\\x7d"
  | bigCount => "Regular expression too big"
  | badRange => "Invalid range end"
  | badFamily => "Invalid character class name"
  | bareFamily => "character class syntax is [[:space:]], not [:space:]"
  | badReference => "Invalid back reference"
  | loneBackslash => "Trailing backslash"

/-- What a character or an escape means where an expression goes on. -/
inductive Sign where
  | opening
  | closing
  | bar
  | star
  | plus
  | maybe
  | brace
  | caret
  | dollar
  | dot
  | bracket
  | back (n : Nat)
  | edge (e : Edge)
  | letters (negated : Bool) (ms : List Member)
  | plain (c : Char)
  deriving DecidableEq

/-- The members of the set of word characters. -/
def wordMembers : List Member := [.family "alnum", .span '_' '_']

/-- What an escaped character means. -/
def escapedSign (extended : Bool) (c : Char) : Sign :=
  let special : Option Sign := match c with
    | '(' => some .opening
    | ')' => some .closing
    | '|' => some .bar
    | '+' => some .plus
    | '?' => some .maybe
    | '{' => some .brace
    | _ => none
  match c with
  | 'w' => .letters false wordMembers
  | 'W' => .letters true wordMembers
  | 's' => .letters false [.family "space"]
  | 'S' => .letters true [.family "space"]
  | 'b' => .edge .wordEdge
  | 'B' => .edge .noWordEdge
  | '<' => .edge .wordStart
  | '>' => .edge .wordEnd
  | '\u0060' => .edge .lineStart
  | '\'' => .edge .lineEnd
  | _ =>
    if c.isDigit ∧ c ≠ '0' then .back (c.toNat - '0'.toNat)
    else if extended then .plain c
    else special.getD (.plain c)

/-- What comes next, and what follows it; nothing at the end. -/
def nextSign? (extended : Bool) : List Char → Except RegexError (Option (Sign × List Char))
  | [] => .ok none
  | ['\\'] => .error .loneBackslash
  | '\\' :: c :: rest => .ok (some (escapedSign extended c, rest))
  | c :: rest =>
    let always : Option Sign := match c with
      | '*' => some .star
      | '.' => some .dot
      | '[' => some .bracket
      | '^' => some .caret
      | '$' => some .dollar
      | _ => none
    let bare : Option Sign := match c with
      | '(' => some .opening
      | ')' => some .closing
      | '|' => some .bar
      | '+' => some .plus
      | '?' => some .maybe
      | '{' => some .brace
      | _ => none
    .ok (some ((always.or (if extended then bare else none)).getD (.plain c), rest))

/-- What is left to be read, and how many groups have begun. -/
structure RegexReader where
  extended : Bool
  folds : Bool := false
  rest : List Char
  groups : Nat := 0
  /-- The groups that have ended. -/
  closed : List Nat := []

abbrev RegexReading := StateT RegexReader (Except RegexError)

namespace RegexReading

def peek : RegexReading (Option (Sign × List Char)) := do
  let r ← get
  nextSign? r.extended r.rest

def skipTo (rest : List Char) : RegexReading Unit := modify fun r => { r with rest := rest }

def letters (negated : Bool) (ms : List Member) : RegexReading Regex := do
  return .one ⟨negated, ms, (← get).folds⟩

/-- The end of a named part of a set: its name and what follows it. -/
def namedPart? (mark : Char) : List Char → Option (List Char × List Char)
  | [] => none
  | [_] => none
  | c :: d :: rest =>
    if c = mark ∧ d = ']' then some ([], rest)
    else (namedPart? mark (d :: rest)).map fun (name, left) => (c :: name, left)

/-- One end of a span in a set, and what follows it. -/
def spanEnd : List Char → Except RegexError (Char × List Char)
  | '[' :: m :: rest =>
    if m = '.' ∨ m = '=' then
      match namedPart? m rest with
      | some ([c], left) => .ok (c, left)
      | _ => .error .openSet
    else .ok ('[', m :: rest)
  | c :: rest => .ok (c, rest)
  | [] => .error .openSet

/-- The members of a set up to its closing bracket, which does not count in front. -/
def setMembers : Nat → Bool → List Char → Except RegexError (List Member × List Char)
  | 0, _, _ | _, _, [] => .error .openSet
  | fuel + 1, first, c :: rest =>
    if c = ']' ∧ !first then .ok ([], rest)
    else
      match c, rest with
      | '[', ':' :: more =>
        match namedPart? ':' more with
        | some (name, left) =>
          let name := String.ofList name
          if familyNames.contains name then do
            let (ms, left) ← setMembers fuel false left
            return (.family name :: ms, left)
          else .error .badFamily
        | none => .error .openSet
      | _, _ => do
        let (low, left) ← spanEnd (c :: rest)
        match left with
        | '-' :: d :: more =>
          if d = ']' then
            let (ms, left) ← setMembers fuel false left
            return (.span low low :: ms, left)
          else
            let (high, left) ← spanEnd (d :: more)
            if high < low then throw .badRange
            let (ms, left) ← setMembers fuel false left
            return (.span low high :: ms, left)
        | _ =>
          let (ms, left) ← setMembers fuel false left
          return (.span low low :: ms, left)

/-- Reads a set behind its opening bracket. -/
def set : RegexReading Regex := do
  let inner := (← get).rest
  let (negated, inner) := match inner with
    | '^' :: more => (true, more)
    | _ => (false, inner)
  let own := inner.takeWhile (· != ']')
  if own.length > 1 ∧ own.head? = some ':' ∧ own.getLast? = some ':' then throw .bareFamily
  let (ms, left) ← setMembers (inner.length + 1) true inner
  skipTo left
  letters negated ms

/-- The numbers in braces and what follows them. -/
def counts? (extended : Bool) (cs : List Char) :
    Option (Option Nat × Option Nat × List Char) :=
  let low := cs.takeWhile Char.isDigit
  let rest := cs.drop low.length
  let (high, rest) := match rest with
    | ',' :: more => (digits? (more.takeWhile Char.isDigit), more.dropWhile Char.isDigit)
    | _ => (digits? low, rest)
  let hasComma := (cs.drop low.length).head? = some ','
  if low.isEmpty ∧ !hasComma then none
  else
    match extended, rest with
    | true, '}' :: left | false, '\\' :: '}' :: left => some (digits? low, high, left)
    | _, _ => none

/-- The most rounds that a repetition can ask for. -/
def mostRounds : Nat := 32767

/-- Reads the numbers of a repetition behind its brace; none where an extended expression has no
such numbers, so that the brace is a character. -/
def count : RegexReading (Option (Nat × Option Nat)) := do
  let r ← get
  match counts? r.extended r.rest with
  | some (low, high, left) =>
    let least := low.getD 0
    if high.any (· < least) then throw .badCount
    if least > mostRounds ∨ high.any (· > mostRounds) then throw .bigCount
    skipTo left
    return some (least, high)
  | none =>
    if r.extended then return none
    else if r.rest.contains '}' then throw .badCount
    else throw .openCount

/-- Reads the repetitions behind a part. -/
def repetitions : Nat → Regex → RegexReading Regex
  | 0, r => return r
  | fuel + 1, r => do
    match ← peek with
    | some (.star, rest) =>
      skipTo rest
      repetitions fuel (.times 0 none r)
    | some (.plus, rest) =>
      skipTo rest
      repetitions fuel (.times 1 none r)
    | some (.maybe, rest) =>
      skipTo rest
      repetitions fuel (.times 0 (some 1) r)
    | some (.brace, rest) =>
      let before := (← get).rest
      skipTo rest
      match ← count with
      | some (least, most) => repetitions fuel (.times least most r)
      | none =>
        skipTo before
        return r
    | _ => return r

/-- A dollar sign ends a line only at the end of a part, where the expression is a basic one. -/
def endsPart (extended : Bool) (rest : List Char) : Bool :=
  extended || match nextSign? false rest with
    | .ok none | .ok (some (.closing, _)) | .ok (some (.bar, _)) => true
    | _ => false

mutual

/-- Parts with bars between them, inside so many groups. -/
def either : Nat → Nat → RegexReading Regex
  | 0, _ => return .empty
  | fuel + 1, depth => do
    let a ← parts fuel depth true
    match ← peek with
    | some (.bar, rest) =>
      skipTo rest
      return .alt a (← either fuel depth)
    | _ => return a

/-- Parts one after another. The flag says that none of them stands before. -/
def parts : Nat → Nat → Bool → RegexReading Regex
  | 0, _, _ => return .empty
  | fuel + 1, depth, first => do
    let r ← get
    let next (a : Regex) : RegexReading Regex := do return .seq a (← parts fuel depth false)
    let repeated (a : Regex) : RegexReading Regex := do next (← repetitions fuel a)
    let plain (c : Char) : RegexReading Regex := do repeated (← letters false [.span c c])
    match ← peek with
    | none => return .empty
    | some (sign, rest) =>
      match sign with
      | .bar => return .empty
      | .closing =>
        if depth > 0 then return .empty
        if !r.extended then throw .closedGroup
        skipTo rest
        plain ')'
      | .opening =>
        let n := r.groups + 1
        modify fun r => { r with rest := rest, groups := n }
        let inner ← either fuel (depth + 1)
        match ← peek with
        | some (.closing, rest) =>
          modify fun r => { r with rest := rest, closed := n :: r.closed }
          repeated (.group n inner)
        | _ => throw .openGroup
      | .caret =>
        skipTo rest
        if r.extended ∨ first then
          return .seq (.edge .lineStart) (← parts fuel depth (first && !r.extended))
        else plain '^'
      | .dollar =>
        skipTo rest
        if endsPart r.extended rest then next (.edge .lineEnd) else plain '$'
      | .star | .plus | .maybe | .brace =>
        if first ∧ r.extended ∧ sign ≠ .brace then repeated .empty
        else
          skipTo rest
          let c := match sign with
            | .star => '*'
            | .plus => '+'
            | .maybe => '?'
            | _ => '{'
          plain c
      | .dot =>
        skipTo rest
        repeated (.one { negated := true, members := [] })
      | .bracket =>
        skipTo rest
        repeated (← set)
      | .back n =>
        skipTo rest
        if !r.closed.contains n then throw .badReference
        repeated (.again n)
      | .edge e =>
        skipTo rest
        next (.edge e)
      | .letters negated ms =>
        skipTo rest
        repeated (← letters negated ms)
      | .plain c =>
        skipTo rest
        plain c

end

end RegexReading

/-- The expression that a text spells. -/
def Regex.parse (extended folds : Bool) (cs : List Char) : Except RegexError Regex := do
  let start : RegexReader := { extended := extended, folds := folds, rest := cs }
  return (← (RegexReading.either (2 * cs.length + 2) 0).run start).1

/-- A text as an expression that covers nothing else. -/
def Regex.ofText (folds : Bool) (cs : List Char) : Regex :=
  cs.foldr (fun c r => .seq (.one { members := [.span c c], folds := folds }) r) .empty

end TaskPipeline.Host
