import TaskPipeline.Decimal
import TaskPipeline.Settings.Tree

/-!
Settings in environment variables. The name of such a variable has a mark in front and a path
behind it, with two underscores for each point, in either case; its text is a flag, a number or a
text, whichever it can be first.
-/

namespace TaskPipeline.Settings

/-- What the name of a variable begins with, in lower case. -/
def variableMark : String := "hive__"

/-- The value that the text of a variable stands for. -/
def variableValue (s : String) : Json :=
  match Text.lower s with
  | "true" => .bool true
  | "false" => .bool false
  | _ =>
    match Text.int64? s with
    | some n => .ofInt64 n
    | none =>
      match Decimal.ofText? s with
      | some bits => .num (.double bits)
      | none => .str s

/-- Points in the place of double underscores. -/
def dotted : List Char → List Char
  | '_' :: '_' :: rest => '.' :: dotted rest
  | c :: rest => c :: dotted rest
  | [] => []

/-- The path that the name of a variable spells; none if it is no setting. -/
def variablePath? (name : String) : Option (List PathStep) :=
  let key := Text.lower name
  if key.startsWith variableMark then
    some (pathOf (String.ofList (dotted (key.toList.drop variableMark.length))))
  else none

/-- Puts a variable into a tree, if it is a setting. -/
def placeVariable (tree : Json) (name text : String) : Json :=
  match variablePath? name with
  | some path => place path (variableValue text) tree
  | none => tree

end TaskPipeline.Settings
