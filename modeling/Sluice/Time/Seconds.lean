import Sluice.Time.Duration
import Sluice.Number.Binary64

/-!
# Seconds as floating point numbers

* `Duration.ofFloat?` is the length nearest to a number of seconds, if there is one;
* `Duration.toFloat` is a length in seconds;
* `Binary64.truncate?` cuts off the places of a number.
-/

namespace Sluice

/-- `num / den` rounded to the nearest natural number, ties to the even neighbour. -/
def Binary64.roundDiv (num den : Nat) : Nat :=
  let n := num / den
  let twice := 2 * (num % den)
  if twice < den ∨ twice = den ∧ n % 2 = 0 then n else n + 1

/-- A finite number without its places. -/
def Binary64.truncate? (x : Float) : Option Int :=
  match parts x with
  | .finite negative mant exp =>
    let (p, q) := ratio mant exp 0
    some (if negative then -((p / q : Nat) : Int) else (p / q : Nat))
  | _ => none

namespace Duration

/-- The length of a number of seconds, rounded to the nearest nanosecond; none for a negative
number or one of `2 ^ 64` or more. -/
def ofFloat? (seconds : Float) : Option Duration :=
  match Binary64.parts seconds with
  | .finite negative mant exp =>
    if negative ∧ mant ≠ 0 then none
    else
      let (p, q) := Binary64.ratio (mant * 1000000000) exp 0
      ofNanos? (Binary64.roundDiv p q)
  | _ => none

/-- The length in seconds. -/
def toFloat (d : Duration) : Float :=
  Float.ofNat d.parts.1 + Float.ofNat d.parts.2 / 1000000000.0

end Duration

end Sluice
