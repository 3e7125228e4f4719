import TaskPipeline.Task.Basic

/-!
Spans of time in milliseconds. They come from settings in whole seconds or milliseconds of 64 bits
and never exceed `Span.greatest`, at which a product stays. Where a span meets an instant it is
taken modulo `2 ^ 64`.
-/

namespace TaskPipeline

/-- A span of time in milliseconds. -/
abbrev Span := Nat

namespace Span

/-- The longest span: `2 ^ 64` seconds less a fraction of a millisecond. -/
def greatest : Span := (UInt64.size - 1) * 1000 + 999

def ofSeconds (n : UInt64) : Span := n.toNat * 1000

def ofMillis (n : UInt64) : Span := n.toNat

/-- A multiple of a span, at most `greatest`. -/
def times (s : Span) (n : Nat) : Span := min (s * n) greatest

/-- The span as a difference of instants. -/
def toInt64 (s : Span) : Int64 := Int64.ofNat s

/-- A span that 64 signed bits can hold keeps its length as a difference. -/
theorem toInt_toInt64 {n : Nat} (h : (n : Int) ≤ Int64.maxValue.toInt) :
    (toInt64 n).toInt = n :=
  Int64.toInt_ofNat_of_lt (by rw [Int64.toInt_maxValue] at h; omega)

/-- The span as a count of 64 bits. -/
def toUInt64 (s : Span) : UInt64 := UInt64.ofNat s

/-- Whole seconds. -/
def seconds (s : Span) : Nat := s / 1000

end Span

end TaskPipeline
