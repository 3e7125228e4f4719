import TaskPipeline.Json.Basic

/-!
Reading records. A record is an object with a member for each field, in any order and with other
members ignored, or an array of its fields in their order. A field given twice is an error. A field
that is missing takes its default; one without a default is an error, but in an object an optional
field without a default is absent.
-/

namespace TaskPipeline.Json

/-- What a text says about one field. -/
inductive Slot where
  | given (j : Json)
  | omitted
  /-- The array ends before the field. -/
  | cutOff

/-- A record as far as its form goes: a slot for each field. -/
abbrev Slots := List (String × Slot)

/-- Slots of a record written as an array. -/
def slotsOfItems : List String → List Json → Option Slots
  | [], [] => some []
  | [], _ :: _ => none
  | f :: fs, [] => (slotsOfItems fs []).map ((f, .cutOff) :: ·)
  | f :: fs, x :: xs => (slotsOfItems fs xs).map ((f, .given x) :: ·)

/-- The slot of one field of a record written as an object. -/
def slotOfMembers (members : List (String × Json)) (field : String) : Option (String × Slot) :=
  match members.filter fun m => m.1 == field with
  | [] => some (field, .omitted)
  | [(_, x)] => some (field, .given x)
  | _ => none

/-- The slots of a record with these fields. -/
def slots (fields : List String) : Json → Option Slots
  | obj members => fields.mapM (slotOfMembers members)
  | arr items => slotsOfItems fields items
  | _ => none

namespace Slots

variable {α : Type}

def get (s : Slots) (field : String) : Slot := (s.lookup field).getD .cutOff

/-- A field that has to be there. -/
def required (s : Slots) (field : String) (read : Json → Option α) : Option α :=
  match s.get field with
  | .given j => read j
  | _ => none

/-- A field with a default. -/
def withDefault (s : Slots) (field : String) (default : α) (read : Json → Option α) : Option α :=
  match s.get field with
  | .given j => read j
  | _ => some default

/-- An optional field: null or no member stand for its absence. -/
def optional (s : Slots) (field : String) (read : Json → Option (Option α)) :
    Option (Option α) :=
  match s.get field with
  | .given j => read j
  | .omitted => some none
  | .cutOff => none

end Slots

/-! ## Field types -/

def asString : Json → Option String
  | str s => some s
  | _ => none

def asBool : Json → Option Bool
  | bool b => some b
  | _ => none

def asInt : Json → Option Int
  | num (.int n) => some n
  | _ => none

/-- An integer from zero up to, but excluding, a bound. -/
def asNat (bound : Nat) (j : Json) : Option Nat := do
  let n ← j.asInt
  if 0 ≤ n ∧ n < bound then some n.toNat else none

def asUInt32 (j : Json) : Option UInt32 := (j.asNat UInt32.size).map (UInt32.ofNat ·)

def asInt64 (j : Json) : Option Int64 := do
  let n ← j.asInt
  if Int64.minValue.toInt ≤ n ∧ n ≤ Int64.maxValue.toInt then some (Int64.ofInt n) else none

/-- Null or a value. -/
def asOption {α : Type} (read : Json → Option α) : Json → Option (Option α)
  | null => some none
  | j => (read j).map some

/-- An array, item by item. -/
def asList {α : Type} (read : Json → Option α) : Json → Option (List α)
  | arr items => items.mapM read
  | _ => none

/-- A free-form value. -/
def asFreeForm (j : Json) : Option Json := j.canonical

/-- One of the names of an enumeration: the name itself, or an object whose only member has the
name and null. -/
def asName {α : Type} (find : String → Option α) : Json → Option α
  | str s => find s
  | obj [(s, null)] => find s
  | _ => none

end TaskPipeline.Json
