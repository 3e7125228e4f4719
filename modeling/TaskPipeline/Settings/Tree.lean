import TaskPipeline.Json.Basic
import TaskPipeline.Text.Lower
import TaskPipeline.Text.Numeral

/-!
Trees of settings: JSON values whose objects are tables. A tree is laid over another one table by
table, and anything but a table replaces what it meets. A path names a place in a tree; putting a
value there makes room for it. The keys of what is laid over a tree come into lower case.
-/

namespace TaskPipeline.Settings

def emptyTable : Json := .obj []

def members : Json → List (String × Json)
  | .obj ms => ms
  | _ => []

/-- Puts a member over the one with its key, or behind the others. -/
def putMember (key : String) (value : Json) : List (String × Json) → List (String × Json)
  | [] => [(key, value)]
  | (k, v) :: rest => if k = key then (key, value) :: rest else (k, v) :: putMember key value rest

/-- Puts a member into a table. What is no table becomes one. -/
def put (tree : Json) (key : String) (value : Json) : Json :=
  .obj (putMember key value (members tree))

/-- What stands under a key, an empty table where there is nothing. -/
def child (tree : Json) (key : String) : Json := (tree.get? key).getD emptyTable

mutual

/-- Lays a tree over another. -/
def overlay (below : Json) : Json → Json
  | .obj ms => overlayMembers below ms
  | other => other

def overlayMembers (below : Json) : List (String × Json) → Json
  | [] => below
  | (k, v) :: rest =>
    let key := Text.lower k
    overlayMembers (put below key (overlay (child below key) v)) rest

end

/-! ## Paths -/

inductive PathStep where
  | key (k : String)
  /-- A place in a list, counted from the end if it is negative. -/
  | index (i : Int)
  deriving DecidableEq, Repr

def isNameChar (c : Char) : Bool := c.isAlphanum || c == ' ' || c == '_' || c == '-'

/-- The number in front of a text: digits, perhaps with a minus sign, within 64 signed bits. -/
def indexAhead? (cs : List Char) : Option (Int × List Char) := do
  let (sign, rest) : Int × List Char := match cs with
    | '-' :: rest => (-1, rest)
    | _ => (1, cs)
  let n ← Text.digits? (rest.takeWhile Char.isDigit)
  let i := sign * (n : Int)
  if Int64.minValue.toInt ≤ i ∧ i ≤ Int64.maxValue.toInt then
    some (i, rest.dropWhile Char.isDigit)
  else none

/-- The steps that a text spells, at most so many: a name after each point, a number in each pair
of brackets. -/
def pathSteps? : Nat → List Char → Option (List PathStep)
  | _, [] => some []
  | fuel + 1, '.' :: rest =>
    let name := rest.takeWhile isNameChar
    if name.isEmpty then none
    else (pathSteps? fuel (rest.dropWhile isNameChar)).map (.key (String.ofList name) :: ·)
  | fuel + 1, '[' :: rest => do
    let isGap (c : Char) := c == ' ' || c == '\t'
    let (i, rest) ← indexAhead? (rest.dropWhile isGap)
    match rest.dropWhile isGap with
    | ']' :: rest => return .index i :: (← pathSteps? fuel rest)
    | _ => none
  | _, _ => none

/-- The path that a text spells. A text that spells none is a key as it is. -/
def pathOf (s : String) : List PathStep :=
  (pathSteps? (s.length + 1) ('.' :: s.toList)).getD [.key s]

def items : Json → List Json
  | .arr xs => xs
  | _ => []

/-- A list with room at an index, and the place that the index names in it. Room beyond the end is
made at the end, room before the start at the start. -/
def roomAt (i : Int) (xs : List Json) : List Json × Nat :=
  if 0 ≤ i then (xs ++ List.replicate (i.toNat + 1 - xs.length) .null, i.toNat)
  else
    let back := (-i).toNat
    if back ≤ xs.length then (xs, xs.length - back)
    else (List.replicate (back - xs.length) .null ++ xs, 0)

/-- Puts a value at a place in a tree: over what stands under a key there, and instead of what
stands at an index. Keys on the way are taken as they are. -/
def place : List PathStep → Json → Json → Json
  | [], value, _ => value
  | [.key k], value, tree => put tree (Text.lower k) (overlay (child tree (Text.lower k)) value)
  | .key k :: rest, value, tree => put tree k (place rest value (child tree k))
  | .index i :: rest, value, tree =>
    let (xs, n) := roomAt i (items tree)
    .arr (xs.set n (place rest value (xs[n]?.getD .null)))

/-- Lays a tree over another, where the keys at its root are paths. -/
def layOver (below tree : Json) : Json :=
  (members tree).foldl (fun below m => place (pathOf m.1) m.2 below) below

end TaskPipeline.Settings
