/-!
Families of characters that have names, as sets of characters in patterns call them. They know the
characters of ASCII only.
-/

namespace TaskPipeline.Text

/-- The families of characters that have names. -/
def inFamily (name : String) (c : Char) : Bool :=
  let isGraph := 33 ≤ c.toNat && c.toNat ≤ 126
  match name with
  | "alnum" => c.isAlphanum
  | "alpha" => c.isAlpha
  | "blank" => c == ' ' || c == '\t'
  | "cntrl" => c.toNat < 32 || c.toNat == 127
  | "digit" => c.isDigit
  | "graph" => isGraph
  | "lower" => c.isLower
  | "print" => isGraph || c == ' '
  | "punct" => isGraph && !c.isAlphanum
  | "space" => c == ' ' || (9 ≤ c.toNat && c.toNat ≤ 13)
  | "upper" => c.isUpper
  | "xdigit" => c.isDigit || ('a' ≤ c && c ≤ 'f') || ('A' ≤ c && c ≤ 'F')
  | _ => false

def familyNames : List String :=
  ["alnum", "alpha", "blank", "cntrl", "digit", "graph", "lower", "print", "punct", "space",
    "upper", "xdigit"]

/-- A member of a set of characters. -/
inductive Member where
  | span (first last : Char)
  | family (name : String)
  deriving DecidableEq, Repr

def Member.has (m : Member) (c : Char) : Bool :=
  match m with
  | span first last => first ≤ c && c ≤ last
  | family name => inFamily name c

/-- The family that is written behind an opening bracket, and what follows it. -/
def frontFamily? (cs : List Char) : Option (String × List Char) :=
  (familyNames.find? fun name => (":" ++ name ++ ":]").toList.isPrefixOf cs).map fun name =>
    (name, cs.drop (name.length + 3))

end TaskPipeline.Text
