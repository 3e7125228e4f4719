import TaskPipeline.Host.Disk
import TaskPipeline.Text.Family

/-!
Patterns that texts and the names of files match: stars, question marks and sets of characters. A
character that is quoted stands for itself.
-/

namespace TaskPipeline.Shell

open Host Text

/-- A character with the flag that it is quoted. -/
abbrev Marked := Char × Bool

/-- A piece of a pattern. -/
inductive Piece where
  | star
  | any
  | one (c : Char)
  | set (negated : Bool) (members : List Member)
  deriving DecidableEq, Repr

/-- Takes off the backslash in front of a character. -/
def dropEscape : List Marked → List Marked
  | ('\\', false) :: (c, _) :: rest => (c, true) :: rest
  | cs => cs

/-- The members of a set up to its closing bracket, which does not count in front. -/
def members? : Nat → Bool → List Marked → Option (List Member × List Marked)
  | 0, _, _ | _, _, [] => none
  | fuel + 1, first, (c, quoted) :: rest =>
    if c = ']' ∧ !quoted ∧ !first then some ([], rest)
    else
      let family := if c = '[' ∧ !quoted then frontFamily? (rest.map (·.1)) else none
      match family with
      | some (name, left) =>
        (members? fuel false (rest.drop (rest.length - left.length))).map fun (ms, left) =>
          (.family name :: ms, left)
      | none =>
        match dropEscape ((c, quoted) :: rest) with
        | (low, _) :: ('-', false) :: more =>
          match dropEscape more with
          | (high, hidden) :: left =>
            if high = ']' ∧ !hidden then
              (members? fuel false (('-', false) :: more)).map fun (ms, left) =>
                (.span low low :: ms, left)
            else
              (members? fuel false left).map fun (ms, left) => (.span low high :: ms, left)
          | [] => none
        | (only, _) :: left =>
          (members? fuel false left).map fun (ms, left) => (.span only only :: ms, left)
        | [] => none

/-- The pieces of a pattern. -/
def pieces : Nat → List Marked → List Piece
  | 0, _ | _, [] => []
  | fuel + 1, (c, true) :: rest => .one c :: pieces fuel rest
  | fuel + 1, (c, false) :: rest =>
    match c with
    | '*' => .star :: pieces fuel rest
    | '?' => .any :: pieces fuel rest
    | '\\' =>
      match rest with
      | (e, _) :: rest => .one e :: pieces fuel rest
      | [] => [.one c]
    | '[' =>
      let (negated, inner) := match rest with
        | ('!', false) :: inner => (true, inner)
        | _ => (false, rest)
      match members? (inner.length + 1) true inner with
      | some (ms, left) => .set negated ms :: pieces fuel left
      | none => .one c :: pieces fuel rest
    | _ => .one c :: pieces fuel rest

def patternOf (cs : List Marked) : List Piece := pieces (cs.length + 1) cs

/-- A pattern that nothing is quoted in. -/
def patternText (s : String) : List Piece := patternOf (s.toList.map fun c => (c, false))

def Piece.accepts (p : Piece) (c : Char) : Bool :=
  match p with
  | star | any => true
  | one d => c == d
  | set negated ms => (ms.any (·.has c)) != negated

/-- What is left of a text behind any number of characters. -/
def suffixes : List Char → List (List Char)
  | [] => [[]]
  | c :: cs => (c :: cs) :: suffixes cs

/-- A pattern matches a whole text. -/
def matchesAll : List Piece → List Char → Bool
  | [], s => s.isEmpty
  | .star :: ps, s => (suffixes s).any (matchesAll ps)
  | p :: ps, c :: s => p.accepts c && matchesAll ps s
  | _ :: _, [] => false

/-- A text without the shortest or longest part, at its front or at its end, that a pattern
matches. Arguments that stay apart have null characters between them: what is matched goes up to
the first of them only, but all that lies on its side is left out. -/
def trimmed (front longest : Bool) (pattern : List Piece) (s : List Char) : List Char :=
  let upToNull (cs : List Char) : List Char := cs.takeWhile (· != '\x00')
  let inFirst := List.range ((upToNull s).length + 1)
  let inAll := (List.range (s.length + 1)).reverse
  let part (n : Nat) : List Char := upToNull (if front then s.take n else s.drop n)
  match (if front = longest then inAll else inFirst).find? fun n => matchesAll pattern (part n) with
  | some n => if front then s.drop n else s.take n
  | none => s

/-! ## Paths -/

/-- The pattern of a literal text. -/
def literal? (ps : List Piece) : Option String :=
  let char? : Piece → Option Char
    | .one c => some c
    | _ => none
  (ps.mapM char?).map String.ofList

/-- The parts of a marked text between its slashes. -/
def betweenSlashes (cs : List Marked) : List (List Marked) :=
  cs.foldr (fun c parts =>
    match parts with
    | part :: more => if c.1 = '/' then [] :: part :: more else (c :: part) :: more
    | [] => [[c]]) [[]]

/-- The paths in front extended by the names that match the parts of a pattern. -/
def extendPaths (d : Disk) (folder : String) (fronts : List String) :
    List (List Marked) → List String
  | [] => fronts
  | part :: more =>
    let pattern := patternOf part
    let ending := if more.isEmpty then "" else "/"
    let next (front : String) : List String :=
      match literal? pattern with
      | some name =>
        let path := resolve folder (front ++ name)
        if name.isEmpty ∨ (if more.isEmpty then d.has path else d.hasFolder path) then
          [front ++ name ++ ending]
        else []
      | none =>
        let hidden := pattern.head? == some (.one '.')
        let names := d.names (resolve folder front)
        let names := if hidden then "." :: ".." :: names else names
        (names.filter fun name =>
          (hidden || name.front != '.') && matchesAll pattern name.toList &&
            (more.isEmpty || d.hasFolder (resolve folder (front ++ name)))).map fun name =>
              front ++ name ++ ending
    extendPaths d folder (fronts.flatMap next) more

/-- The paths that a pattern matches, in order; none if the text is no pattern. -/
def pathsLike (d : Disk) (folder : String) (cs : List Marked) : List String :=
  if (literal? (patternOf cs)).isSome then []
  else (extendPaths d folder [""] (betweenSlashes cs)).mergeSort fun a b => decide (a ≤ b)

end TaskPipeline.Shell
