import TaskPipeline.Decimal
import TaskPipeline.Json.Basic

/-!
The text of JSON values, in one line or with two spaces of indentation. Quotes, backslashes and
the controls below the space are escaped, everything else stands for itself.
-/

namespace TaskPipeline.Json

/-- The digits of a control character's escape. -/
def controlDigits (n : Nat) : List Char := [Nat.digitChar (n / 16), Nat.digitChar (n % 16)]

/-- How one character is written in a JSON text. -/
def escapedChar (c : Char) : List Char :=
  if c = '"' then ['\\', '"']
  else if c = '\\' then ['\\', '\\']
  else if c = '\x08' then ['\\', 'b']
  else if c = '\x0C' then ['\\', 'f']
  else if c = '\n' then ['\\', 'n']
  else if c = '\r' then ['\\', 'r']
  else if c = '\t' then ['\\', 't']
  else if c.toNat < 0x20 then ['\\', 'u', '0', '0'] ++ controlDigits c.toNat
  else [c]

/-- A text between quotes. -/
def printString (s : String) : List Char := '"' :: s.toList.flatMap escapedChar ++ ['"']

/-- The digits of an integer. -/
def printInt : Int → List Char
  | .ofNat n => Nat.toDigits 10 n
  | .negSucc n => '-' :: Nat.toDigits 10 (n + 1)

def printNumber : Number → List Char
  | .int n => printInt n
  | .double bits => Decimal.print bits

mutual

/-- The value in one line. -/
def print : Json → List Char
  | null => ['n', 'u', 'l', 'l']
  | bool true => ['t', 'r', 'u', 'e']
  | bool false => ['f', 'a', 'l', 's', 'e']
  | num n => printNumber n
  | str s => printString s
  | arr [] => ['[', ']']
  | arr (x :: xs) => '[' :: print x ++ printItems xs
  | obj [] => ['\x7b', '\x7d']
  | obj ((k, x) :: ms) => '\x7b' :: printString k ++ ':' :: print x ++ printMembers ms
  | unreadable => ['n', 'u', 'l', 'l']

/-- The items after the first, and the end of the array. -/
def printItems : List Json → List Char
  | [] => [']']
  | x :: xs => ',' :: print x ++ printItems xs

/-- The members after the first, and the end of the object. -/
def printMembers : List (String × Json) → List Char
  | [] => ['\x7d']
  | (k, x) :: ms => ',' :: printString k ++ ':' :: print x ++ printMembers ms

end

/-- A line break and the indentation of a level. -/
def newLine (level : Nat) : List Char := '\n' :: List.replicate (2 * level) ' '

mutual

/-- The value over several lines, from a level of indentation on. -/
def printPretty (level : Nat) : Json → List Char
  | arr [] => ['[', ']']
  | arr (x :: xs) =>
    '[' :: newLine (level + 1) ++ printPretty (level + 1) x ++ printPrettyItems level xs
  | obj [] => ['\x7b', '\x7d']
  | obj ((k, x) :: ms) =>
    '\x7b' :: newLine (level + 1) ++ printString k ++ ':' :: ' ' :: printPretty (level + 1) x ++
      printPrettyMembers level ms
  | scalar => print scalar

def printPrettyItems (level : Nat) : List Json → List Char
  | [] => newLine level ++ [']']
  | x :: xs => ',' :: newLine (level + 1) ++ printPretty (level + 1) x ++ printPrettyItems level xs

def printPrettyMembers (level : Nat) : List (String × Json) → List Char
  | [] => newLine level ++ ['\x7d']
  | (k, x) :: ms =>
    ',' :: newLine (level + 1) ++ printString k ++ ':' :: ' ' :: printPretty (level + 1) x ++
      printPrettyMembers level ms

end

/-- The text of a value in one line. -/
def toText (j : Json) : String := String.ofList j.print

/-- The text of a value over several lines. -/
def toPrettyText (j : Json) : String := String.ofList (j.printPretty 0)

end TaskPipeline.Json
