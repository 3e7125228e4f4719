import TaskPipeline.Json.Basic

/-!
What a settings file can hold: tables of texts, flags, numbers, lists and tables. A member without
a value is left out; a list with such an element, a whole number beyond 64 signed bits and what
nests too deep have no place in a file.
-/

namespace TaskPipeline.Settings

mutual

/-- A value as a file holds it. -/
def fileValue? : Json → Option Json
  | .null => none
  | .num (.int n) =>
    if Int64.minValue.toInt ≤ n ∧ n ≤ Int64.maxValue.toInt then some (.num (.int n)) else none
  | .arr xs => (fileItems? xs).map .arr
  | .obj ms => (fileMembers? ms).map .obj
  | other => some other

def fileItems? : List Json → Option (List Json)
  | [] => some []
  | x :: xs => do return (← fileValue? x) :: (← fileItems? xs)

def fileMembers? : List (String × Json) → Option (List (String × Json))
  | [] => some []
  | (_, .null) :: ms => fileMembers? ms
  | (k, v) :: ms => do return (k, ← fileValue? v) :: (← fileMembers? ms)

end

/-! ## Nesting -/

/-- So many keys or brackets stand around a value at most. -/
def nestingLimit : Nat := 79

def isTable : Json → Bool
  | .obj _ => true
  | _ => false

mutual

/-- A value within so many brackets fits. -/
def bracketsFit (depth : Nat) : Json → Bool
  | .arr xs => depth < nestingLimit && bracketsFitAll (depth + 1) xs
  | .obj ms => depth < nestingLimit && bracketsFitMembers (depth + 1) ms
  | _ => true

def bracketsFitAll (depth : Nat) : List Json → Bool
  | [] => true
  | x :: xs => bracketsFit depth x && bracketsFitAll depth xs

def bracketsFitMembers (depth : Nat) : List (String × Json) → Bool
  | [] => true
  | (_, x) :: ms => bracketsFit depth x && bracketsFitMembers depth ms

end

mutual

/-- What stands under a heading of so many keys fits. A list of tables has a heading for each of
them; any other list is written in brackets. -/
def headingsFit (depth : Nat) : Json → Bool
  | .obj ms => depth ≤ nestingLimit && headingsFitMembers (depth + 1) ms
  | .arr xs => if !xs.isEmpty && xs.all isTable then headingsFitAll depth xs
    else bracketsFit 0 (.arr xs)
  | _ => true

def headingsFitAll (depth : Nat) : List Json → Bool
  | [] => true
  | x :: xs => headingsFit depth x && headingsFitAll depth xs

def headingsFitMembers (depth : Nat) : List (String × Json) → Bool
  | [] => true
  | (_, x) :: ms => headingsFit depth x && headingsFitMembers depth ms

end

/-- The tree that a file holds; none if no file can hold it. -/
def fileTree? (j : Json) : Option Json := do
  let tree ← fileValue? (← j.canonical)
  if isTable tree ∧ headingsFit 0 tree = true then some tree else none

end TaskPipeline.Settings
