import Sluice.Time.Duration
import Sluice.Text.Digits

/-!
# The text of a duration

The largest of the units s, ms, µs, ns that is not longer than the duration, as a decimal fraction
without zeros at its end: `1.5s`, `2ms`, `1.000001ms`, `100ns`, `0ns`.
-/

namespace Sluice.Duration

/-- The places after the point of a number of `width` digits, without zeros at the end. -/
def places (width n : Nat) : List Char :=
  ((Digits.padded width n).reverse.dropWhile (· == '0')).reverse

/-- `whole` and a fraction of `width` places. -/
def decimal (whole width fraction : Nat) : List Char :=
  Digits.decimal whole ++
    (if fraction = 0 then [] else '.' :: places width fraction)

/-- The text of a duration. -/
def text (d : Duration) : String :=
  let n := d.nanos
  let (cs, unit) :=
    if 1000000000 ≤ n then (decimal (n / 1000000000) 9 (n % 1000000000), "s")
    else if 1000000 ≤ n then (decimal (n / 1000000) 6 (n % 1000000), "ms")
    else if 1000 ≤ n then (decimal (n / 1000) 3 (n % 1000), "µs")
    else (Digits.decimal n, "ns")
  String.ofList cs ++ unit

end Sluice.Duration
