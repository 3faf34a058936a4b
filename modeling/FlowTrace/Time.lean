import FlowTrace.Bytes
import FlowTrace.Decimal.Binary64

/-!
# Time spans and instants

Both count whole nanoseconds. A span of seconds is read from a double, rounded to the nearest
nanosecond (`Duration.ofSeconds`); it faults where no span of 64-bit seconds holds the number.
-/

namespace FlowTrace

/-- A time span in nanoseconds. -/
structure Duration where
  nanos : Nat
  deriving DecidableEq, Repr

/-- A moment in nanoseconds since an arbitrary start. -/
structure Instant where
  nanos : Nat
  deriving DecidableEq, Repr

namespace Duration

/-- The first number of nanoseconds that is too long for a span. -/
def bound : Nat := 18446744073709551616 * 1000000000

def zero : Duration := ⟨0⟩

def ofMicros (n : Nat) : Duration := ⟨n * 1000⟩

def ofMillis (n : Nat) : Duration := ⟨n * 1000000⟩

/-- Whole microseconds, the rest cut off. -/
def micros (d : Duration) : Nat := d.nanos / 1000

/-- Whole microseconds in 64 bits. -/
def micros64 (d : Duration) : Nat := d.micros % 18446744073709551616

def isZero (d : Duration) : Bool := d.nanos == 0

/-- The sum of two spans, if it is a span. -/
def add (a b : Duration) : Except Fault Duration :=
  if a.nanos + b.nanos < bound then .ok ⟨a.nanos + b.nanos⟩ else .error .spanOutOfRange

/-- Seconds as a double: whole seconds and the rest are converted apart and added. -/
def seconds (d : Duration) : Float :=
  Decimal.Binary64.ofNat (d.nanos / 1000000000) +
    Decimal.Binary64.ofNat (d.nanos % 1000000000) / 1000000000.0

/-- The span of a number of seconds, to the nearest nanosecond, ties to the even one. -/
def ofSeconds (x : Float) : Except Fault Duration :=
  match Decimal.Binary64.ofFloat x with
  | .finite negative significand exponent =>
    if negative ∧ significand ≠ 0 then .error .spanOutOfRange
    else
      let exact := Decimal.Binary64.inUnits (significand * 1000000000) 1 (-exponent)
      let nanos := Decimal.nearestEven exact.1 exact.2
      if nanos < bound then .ok ⟨nanos⟩ else .error .spanOutOfRange
  | _ => .error .spanOutOfRange

/-- The shorter of two spans. -/
def min (a b : Duration) : Duration := if a.nanos ≤ b.nanos then a else b

/-- The longer of two spans. -/
def max (a b : Duration) : Duration := if a.nanos ≤ b.nanos then b else a

end Duration

namespace Instant

/-- A span after an instant. Instants have no end here. On a real clock a sum past its end is a
panic, which is left out. -/
def after (t : Instant) (d : Duration) : Instant := ⟨t.nanos + d.nanos⟩

/-- The span from an earlier instant, zero if it is not earlier. -/
def since (t start : Instant) : Duration := ⟨t.nanos - start.nanos⟩

end Instant

end FlowTrace
