import TaskPipeline.Decimal
import TaskPipeline.Store.Basic

/-!
Cells of stored rows: nothing, a number or a text. Numbers stand before texts in every comparison,
and nothing compares with nothing. A column keeps what is put into it in its own kind where the
value allows that.
-/

namespace TaskPipeline

inductive Cell where
  | null
  | integer (n : Int64)
  /-- A double that is no integer, given by its bits. -/
  | real (bits : UInt64)
  | text (s : String)
  deriving DecidableEq, Repr

namespace Cell

def ofOption {α : Type} (f : α → Cell) : Option α → Cell
  | some a => f a
  | none => null

def typeName : Cell → String
  | null => "Null"
  | integer _ => "Integer"
  | real _ => "Real"
  | text _ => "Text"

/-- The value of a number in steps so fine that every number is a multiple of them. -/
def steps : Cell → Int
  | integer n => n.toInt * (Nat.pow 2 Decimal.finestPlace : Nat)
  | real bits => Decimal.multiple bits
  | null | text _ => 0

/-- The comparison `a < b` of a query, which is never true of a null. -/
def before : Cell → Cell → Bool
  | integer a, integer b => a < b
  | text a, text b => a < b
  | null, _ | _, null | text _, _ => false
  | _, text _ => true
  | a, b => a.steps < b.steps

/-- The comparison `a = b` of a query. -/
def same : Cell → Cell → Bool
  | integer a, integer b => a == b
  | text a, text b => a == b
  | null, _ | _, null | text _, _ | _, text _ => false
  | a, b => a.steps == b.steps

/-- The comparison `a <= b` of a query. -/
def upTo (a b : Cell) : Bool := a.before b || a.same b

/-- The order in which a query sorts: nulls, numbers, texts. -/
def sortsUpTo (a b : Cell) : Bool := a == null || a.upTo b

/-! ## Numbers in texts -/

/-- A space or a control character that separates lines and columns. -/
def isGap (c : Char) : Bool := c == ' ' || ('\x09' ≤ c && c ≤ '\x0D')

/-- The number that a double is: an integer, if it is one and lies inside the bounds of those. -/
def ofDouble (bits : UInt64) : Cell :=
  match (Decimal.whole? bits).filter fun w =>
      Int64.minValue.toInt < w ∧ w < Int64.maxValue.toInt with
  | some w => integer (Int64.ofInt w)
  | none => real bits

/-- The number that a text spells in digits, perhaps with a point, an exponent, a sign and gaps
around. -/
def ofNumeral? (s : String) : Option Cell :=
  let cs := ((s.toList.dropWhile isGap).reverse.dropWhile isGap).reverse
  match Text.int64? (String.ofList cs) with
  | some n => some (integer n)
  | none => (Decimal.signed? Decimal.ofDigits? cs).map ofDouble

end Cell

/-- The columns of a stored task. -/
inductive Column where
  | id
  | taskType
  | direction
  | context
  | status
  | attemptCount
  | maxAttempts
  | lastFailureCategory
  | retryReflections
  | claimedBy
  | nextAttemptAt
  | cancelled
  | output
  | createdAt
  | updatedAt
  deriving DecidableEq, Repr

namespace Column

def all : List Column :=
  [id, taskType, direction, context, status, attemptCount, maxAttempts, lastFailureCategory,
    retryReflections, claimedBy, nextAttemptAt, cancelled, output, createdAt, updatedAt]

def name : Column → String
  | id => "id"
  | taskType => "task_type"
  | direction => "direction"
  | context => "context"
  | status => "status"
  | attemptCount => "attempt_count"
  | maxAttempts => "max_attempts"
  | lastFailureCategory => "last_failure_category"
  | retryReflections => "retry_reflections"
  | claimedBy => "claimed_by"
  | nextAttemptAt => "next_attempt_at"
  | cancelled => "cancelled"
  | output => "output"
  | createdAt => "created_at"
  | updatedAt => "updated_at"

def ofName? (s : String) : Option Column := all.find? fun c => c.name == s

/-- The place of the column in a row, from zero on. -/
def index (c : Column) : Nat := all.findIdx (· == c)

/-- The column keeps integers rather than texts. -/
def keepsIntegers : Column → Bool
  | attemptCount | maxAttempts | nextAttemptAt | cancelled | createdAt | updatedAt => true
  | _ => false

/-- The column may hold nothing. -/
def isOptional : Column → Bool
  | id | context | lastFailureCategory | claimedBy | nextAttemptAt | output => true
  | _ => false

/-- What the column makes of a cell that is put into it. -/
def keep (c : Column) : Cell → Cell
  | .null => .null
  | .integer n => if c.keepsIntegers then .integer n else .text (toString n.toInt)
  | .real bits =>
    if c.keepsIntegers then .ofDouble bits else .text (String.ofList (Decimal.print bits))
  | .text s => if c.keepsIntegers then (Cell.ofNumeral? s).getD (.text s) else .text s

end Column

end TaskPipeline
