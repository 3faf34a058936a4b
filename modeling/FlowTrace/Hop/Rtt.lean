import FlowTrace.Time

/-!
# Round-trip times

`Rtt` keeps streaming statistics of round-trip times in constant space: count, extremes, Welford's
running mean and sum of squared deviations, and the smoothed jitter of RTP. All means are in
microseconds.
-/

namespace FlowTrace

/-- Statistics of round-trip times. -/
structure Rtt where
  count : Nat := 0
  min : Option Duration := none
  max : Option Duration := none
  /-- The running mean in microseconds. -/
  mean : Float := 0
  /-- The sum of squared deviations from the mean. -/
  m2 : Float := 0
  /-- The smoothed difference of consecutive times in microseconds. -/
  jitter : Float := 0
  last : Option Duration := none

namespace Rtt

/-- No times yet. -/
def empty : Rtt := {}

/-- The jitter after a time, given the time before it. -/
def nextJitter (jitter micros : Float) : Option Duration → Float
  | none => jitter
  | some last =>
    let diff := (micros - Decimal.Binary64.ofNat last.micros).abs
    jitter + (diff - jitter) / 16.0

/-- The statistics with one more time. -/
def record (s : Rtt) (rtt : Duration) : Rtt :=
  let count := s.count + 1
  let micros := Decimal.Binary64.ofNat rtt.micros
  let delta := micros - s.mean
  let mean := s.mean + delta / Decimal.Binary64.ofNat count
  { count := count
    min := some (s.min.elim rtt (·.min rtt))
    max := some (s.max.elim rtt (·.max rtt))
    mean := mean
    m2 := s.m2 + delta * (micros - mean)
    jitter := nextJitter s.jitter micros s.last
    last := some rtt }

/-- Microseconds of a double, cut off, as a time span. -/
def wholeMicros (x : Float) : Duration := .ofMicros x.toUInt64.toNat

/-- The mean, if there is a time. -/
def meanSpan (s : Rtt) : Option Duration := if 0 < s.count then some (wholeMicros s.mean) else none

/-- The population variance in squared microseconds. -/
def variance (s : Rtt) : Float :=
  if s.count < 2 then 0 else s.m2 / Decimal.Binary64.ofNat s.count

/-- The standard deviation. -/
def deviation (s : Rtt) : Duration := wholeMicros s.variance.sqrt

/-- The jitter as a time span. -/
def jitterSpan (s : Rtt) : Duration := wholeMicros s.jitter

/-- Every time is counted. -/
theorem count_record (s : Rtt) (rtt : Duration) : (s.record rtt).count = s.count + 1 := rfl

end Rtt

end FlowTrace
