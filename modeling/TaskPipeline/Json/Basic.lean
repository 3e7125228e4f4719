/-!
JSON values. Members of an object keep the order and the repetitions of the text; `canonical`
gives the free-form reading, where the keys are sorted and the last of equal keys counts.
-/

namespace TaskPipeline

/-- A number: an integer of 64 bits, signed or unsigned, or a double given by its bits. -/
inductive Json.Number where
  | int (n : Int)
  | double (bits : UInt64)
  deriving DecidableEq, Repr

inductive Json where
  | null
  | bool (b : Bool)
  | num (n : Json.Number)
  | str (s : String)
  | arr (items : List Json)
  | obj (members : List (String × Json))
  /-- Something well written that has no value: a text with half of a surrogate pair, a number
  beyond the doubles, or what nests too deep. It may stand only where nobody reads it. -/
  | unreadable
  deriving Repr

namespace Json

def ofInt (n : Int) : Json := num (.int n)

def ofNat (n : Nat) : Json := num (.int n)

def ofUInt32 (n : UInt32) : Json := ofNat n.toNat

def ofUInt64 (n : UInt64) : Json := ofNat n.toNat

def ofInt64 (n : Int64) : Json := ofInt n.toInt

/-- A value or null. -/
def ofOption {α : Type} (f : α → Json) : Option α → Json
  | some a => f a
  | none => null

/-- Puts a member in its place among members sorted by key, over an equal key. -/
def insertMember (key : String) (value : Json) : List (String × Json) → List (String × Json)
  | [] => [(key, value)]
  | (k, v) :: rest =>
    if key < k then (key, value) :: (k, v) :: rest
    else if key = k then (key, value) :: rest
    else (k, v) :: insertMember key value rest

/-- Members sorted by key, the last of equal keys kept. -/
def sortMembers (members : List (String × Json)) : List (String × Json) :=
  members.foldl (fun sorted m => insertMember m.1 m.2 sorted) []

mutual

/-- The free-form reading of a value; none if some part has no value. -/
def canonical : Json → Option Json
  | null => some null
  | bool b => some (bool b)
  | num n => some (num n)
  | str s => some (str s)
  | arr items => (canonicalItems items).map arr
  | obj members => (canonicalMembers members).map fun ms => obj (sortMembers ms)
  | unreadable => none

def canonicalItems : List Json → Option (List Json)
  | [] => some []
  | x :: xs => do return (← canonical x) :: (← canonicalItems xs)

def canonicalMembers : List (String × Json) → Option (List (String × Json))
  | [] => some []
  | (k, x) :: xs => do return (k, ← canonical x) :: (← canonicalMembers xs)

end

/-- The value of the last member with a key. -/
def get? (key : String) : Json → Option Json
  | obj members => (members.reverse.find? fun m => m.1 == key).map (·.2)
  | _ => none

end Json

end TaskPipeline
