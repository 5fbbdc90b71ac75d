import Sluice.Proofs.Time.Line

/-!
# Whole milliseconds

What is left of lengths and of points in time when they are kept in whole milliseconds.

* `Duration.floor` : a length without what goes beyond a millisecond; `Duration.ofMillis_millis64` :
  it is all that 64 bits of milliseconds can lose of a length that is short enough;
* `Timestamp.floor` : the last whole millisecond that is not later; `Timestamp.line_floor` : the
  line of time is cut down, before 1970 too;
* `Timestamp.ofMillis?_millis` : it is what is read from the milliseconds of a point in time.
-/

namespace Sluice

namespace Duration

variable {d : Duration}

/-- The length without what goes beyond a whole number of milliseconds. -/
def floor (d : Duration) : Duration :=
  ⟨d.millis * 1000000, by have := d.nanos_lt; unfold millis; omega⟩

theorem nanos_floor (d : Duration) : d.floor.nanos = d.nanos / 1000000 * 1000000 := rfl

@[simp] theorem millis_floor (d : Duration) : d.floor.millis = d.millis := by
  rw [millis, nanos_floor, Nat.mul_div_cancel _ (by decide), millis]

@[simp] theorem millis64_floor (d : Duration) : d.floor.millis64 = d.millis64 := by
  rw [millis64, millis_floor, millis64]

theorem floor_eq_iff : d.floor = d ↔ d.nanos % 1000000 = 0 := by
  constructor
  · intro h
    have hnanos := congrArg nanos h
    rw [nanos_floor] at hnanos
    omega
  · intro h
    apply Duration.ext
    rw [nanos_floor]
    omega

/-- Of a length whose milliseconds fit into 64 bits, those bits keep every millisecond. -/
theorem ofMillis_millis64 (h : d.millis < 18446744073709551616) : ofMillis d.millis64 = d.floor := by
  apply Duration.ext
  rw [nanos_ofMillis, millis64, Nat.toUInt64, UInt64.toNat_ofNat_of_lt' h, nanos_floor, millis]

end Duration

namespace Timestamp

variable {t : Timestamp}

/-- The last whole millisecond that is not later. -/
def floor (t : Timestamp) : Timestamp :=
  { t with
    nanos := t.nanos / 1000000 * 1000000
    nanos_lt := by have := t.nanos_lt; omega
    leap := by have := t.leap; omega }

/-- **The line of time is cut down to the millisecond**, toward the past before 1970 too. -/
theorem line_floor (t : Timestamp) : t.floor.line = t.line / 1000000 * 1000000 := by
  change t.secs * 1000000000 + (t.nanos / 1000000 * 1000000 : Nat) = _
  rw [line]
  omega

@[simp] theorem millis_floor (t : Timestamp) : t.floor.millis = t.millis := by
  change t.secs * 1000 + (t.nanos / 1000000 * 1000000 / 1000000 : Nat) = _
  rw [Nat.mul_div_cancel _ (by decide), millis]

/-- **What is read from the milliseconds of a point in time**, unless it is a leap second. -/
theorem ofMillis?_millis (h : t.isLeap = false) : ofMillis? t.millis = some t.floor := by
  rw [isLeap_eq_false] at h
  rw [ofMillis?, ofParts?_eq_some, millis]
  change t.secs = _ ∧ t.nanos / 1000000 * 1000000 = _
  omega

end Timestamp

end Sluice
