import TaskPipeline.Text.Based

/-!
Words in quotes, as messages show them and as a shell would read them.
-/

namespace TaskPipeline.Host

/-- The letter that stands for a byte behind a backslash. -/
def escapeLetter? (c : Char) : Option Char :=
  match c.toNat with
  | 7 => some 'a'
  | 8 => some 'b'
  | 9 => some 't'
  | 10 => some 'n'
  | 11 => some 'v'
  | 12 => some 'f'
  | 13 => some 'r'
  | _ => none

def isPrintable (c : Char) : Bool := 32 ≤ c.toNat && c.toNat ≤ 126

/-- A byte that cannot be printed, behind a backslash. -/
def escapedByte (c : Char) : String :=
  match escapeLetter? c with
  | some e => "\\" ++ String.singleton e
  | none =>
    let n := c.toNat
    let digit (k : Nat) : Char := Char.ofNat ('0'.toNat + k % 8)
    "\\" ++ String.ofList [digit (n / 64), digit (n / 8), digit n]

/-- A word between quotes as it stands. -/
def betweenQuotes (s : String) : String := "'" ++ s ++ "'"

/-- A word in quotes for a message, in which a backslash stands before quotes, backslashes and the
names of bytes that cannot be printed. -/
def inQuotes (s : String) : String :=
  let shown (c : Char) : String :=
    if c = '\\' ∨ c = '\'' then "\\" ++ String.singleton c
    else if isPrintable c then String.singleton c
    else escapedByte c
  betweenQuotes (String.join (s.toList.map shown))

/-- Characters that keep their meaning inside double quotes. -/
def isTame (c : Char) : Bool := c.isAlphanum || "%+,-./:]_ '".toList.contains c

/-- A word that a shell would not read as it stands. -/
def needsQuotes (s : String) : Bool :=
  s.isEmpty || s == "\x7b" || s == "\x7d" ||
    s.toList.any (fun c => !isPrintable c || " !\"$&'()*;<=>?[\\^\u0060|".toList.contains c) ||
    s.toList.head?.any fun c => c == '#' || c == '~'

/-- The parts of a word in single quotes: quotes and bytes that cannot be printed stand outside. -/
def singleQuoted : Bool → List Char → String
  | hidden, [] => if hidden then "" else "'"
  | hidden, c :: cs =>
    if isPrintable c then
      let reopen := if hidden then "''" else ""
      if c = '\'' then reopen ++ "'\\''" ++ singleQuoted false cs
      else reopen ++ String.singleton c ++ singleQuoted false cs
    else
      let reopen := if hidden then "" else "'$'"
      reopen ++ escapedByte c ++ (if cs.isEmpty then "'" else "") ++ singleQuoted true cs

/-- A word in quotes that a shell would read as the word. -/
def alwaysQuoted (s : String) : String :=
  if s.toList.contains '\'' ∧ s.toList.all isTame then "\"" ++ s ++ "\""
  else "'" ++ singleQuoted false s.toList

/-- A word as a shell would read it, in quotes only where it needs them. -/
def shellQuoted (s : String) : String := if needsQuotes s then alwaysQuoted s else s

/-- The name of a file in front of a colon. -/
def quotedName (s : String) : String := if s.contains ':' then alwaysQuoted s else shellQuoted s

end TaskPipeline.Host
