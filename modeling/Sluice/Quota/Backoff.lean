import Sluice.Time.Duration

/-!
# Backoff

How long to sleep before asking for a unit again: the ceiling doubles with every attempt, is cut
off by a longest delay and by the hint that came with the denial, and is never below a millisecond.
A share of it, the jitter, is left to chance.

* `Backoff.ceiling` is the longest sleep;
* `Backoff.spread` says which sleeps chance may choose from;
* `Spread.delay` is the sleep for a number drawn from there.
-/

namespace Sluice

/-- The bounds of the delays. -/
structure Backoff where
  /-- The ceiling of the first delay. -/
  base : Duration
  /-- The ceiling of every delay. -/
  longest : Duration
  /-- The share of a delay that is left to chance. -/
  jitter : Float

/-- The delays that chance may choose from. -/
inductive Spread where
  /-- This delay only. -/
  | fixed (delay : Duration)
  /-- A number of microseconds between two bounds, which belong to the range. -/
  | drawn (low high : UInt64)
  deriving DecidableEq, Repr

namespace Backoff

/-- No delay is shorter. -/
def shortest : Duration := .ofMillis 1

/-- 25 milliseconds at first, five seconds at most, half of it left to chance. -/
def standard : Backoff := ⟨.ofMillis 25, .ofSeconds 5, 0.5⟩

/-- A share cut down to the range from none to all. No number stays as it is. -/
def share (jitter : Float) : Float :=
  if jitter < 0.0 then 0.0 else if 1.0 < jitter then 1.0 else jitter

/-- With another share left to chance. -/
def withJitter (b : Backoff) (jitter : Float) : Backoff := { b with jitter := share jitter }

/-- The longest delay before retry number `attempt`, counted from zero (`ceiling`). -/
def ceiling (b : Backoff) (attempt : UInt32) (hint : Duration) : Duration :=
  let factor := min (Nat.pow 2 (min attempt.toNat 31)) 4294967295
  max (min (min (b.base.scale factor) b.longest) hint) shortest

/-- The delays before retry number `attempt` (`delay`). -/
def spread (b : Backoff) (attempt : UInt32) (hint : Duration) : Spread :=
  let top := b.ceiling attempt hint
  let jitter := share b.jitter
  if jitter == 0.0 then .fixed top
  else
    let high := top.micros64
    .drawn (Float.ofNat high.toNat * (1.0 - jitter)).toUInt64 high

end Backoff

namespace Spread

/-- There is a delay to choose. -/
def isPossible : Spread → Bool
  | .fixed _ => true
  | .drawn low high => low ≤ high

/-- The numbers that may be drawn; a fixed delay asks for none and takes any. -/
def admits : Spread → UInt64 → Prop
  | .fixed _, _ => True
  | .drawn low high, n => low ≤ n ∧ n ≤ high

/-- The number that a source of chance gives, brought into the range. -/
def choose : Spread → UInt64 → UInt64
  | .fixed _, n => n
  | .drawn low high, n =>
    if low ≤ n ∧ n ≤ high then n
    else (low.toNat + n.toNat % (high.toNat - low.toNat + 1)).toUInt64

/-- The delay for a number drawn. -/
def delay : Spread → UInt64 → Duration
  | .fixed d, _ => d
  | .drawn _ _, n => max (.ofMicros n) Backoff.shortest

end Spread

end Sluice
