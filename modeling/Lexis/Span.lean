import Lexis.Fault

/-!
Stretches of a source text, as a pair of 32-bit byte offsets. `Span.between` refuses a reversed
pair; the plain constructor does not, since spans also arrive from outside, and every operation
but `length` has an answer for a reversed one.
-/

namespace Lexis

open Text

/-- The bytes from `start` up to but not including `stop`. -/
structure Span where
  start : UInt32
  stop : UInt32
  deriving DecidableEq, Inhabited, Repr

namespace Span

def between (start stop : UInt32) : Checked Span :=
  if start ≤ stop then .ok ⟨start, stop⟩ else .error .spanReversed

def point (offset : UInt32) : Span :=
  ⟨offset, offset⟩

def isEmpty (s : Span) : Bool :=
  s.start == s.stop

def length (s : Span) : Checked UInt32 :=
  if s.start ≤ s.stop then .ok (s.stop - s.start) else .error .lengthUnderflow

def contains (s : Span) (offset : UInt32) : Bool :=
  decide (s.start ≤ offset) && decide (offset < s.stop)

def merge (s t : Span) : Span :=
  ⟨min s.start t.start, max s.stop t.stop⟩

def render (s : Span) : String :=
  Decimal.ofNat s.start.toNat ++ ".." ++ Decimal.ofNat s.stop.toNat

/-- The end of a range that is too far out for a span, with its value. -/
inductive RangeError where
  | startTooLarge (offset : Nat)
  | endTooLarge (offset : Nat)
  deriving DecidableEq, Repr

namespace RangeError

def message : RangeError → String
  | startTooLarge offset =>
      "span start " ++ Decimal.ofNat offset ++ " exceeds the 4294967295 byte limit"
  | endTooLarge offset =>
      "span end " ++ Decimal.ofNat offset ++ " exceeds the 4294967295 byte limit"

end RangeError

/-- The span of a range of offsets of any size. The start is looked at first. -/
def ofRange (start stop : Nat) : Except RangeError Span :=
  if UInt32.size ≤ start then .error (.startTooLarge start)
  else if UInt32.size ≤ stop then .error (.endTooLarge stop)
  else .ok ⟨UInt32.ofNat start, UInt32.ofNat stop⟩

end Span

end Lexis
