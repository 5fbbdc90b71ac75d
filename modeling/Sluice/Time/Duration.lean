/-!
# Lengths of time

A `Duration` is a whole number of nanoseconds below `2 ^ 64` seconds.

* `Duration.ofNanos?` and `Duration.clamp` build one from any number of nanoseconds, refusing or
  saturating above `Duration.longest`;
* `Duration.millis` and `Duration.micros` round down, `Duration.millis64` and `Duration.micros64`
  keep the low 64 bits of that;
* `Duration.scale` is multiplication that saturates.
-/

namespace Sluice

/-- A length of time in nanoseconds, below `2 ^ 64` seconds. -/
structure Duration where
  /-- Nanoseconds. -/
  nanos : Nat
  /-- The length is below `2 ^ 64` seconds. -/
  nanos_lt : nanos < 18446744073709551616 * 1000000000
  deriving DecidableEq, Repr

namespace Duration

/-- The empty length. -/
def zero : Duration := ⟨0, by decide⟩

/-- The greatest length. -/
def longest : Duration := ⟨18446744073709551616 * 1000000000 - 1, by decide⟩

instance : Inhabited Duration := ⟨zero⟩

/-- The length of `n` nanoseconds, if it is small enough. -/
def ofNanos? (n : Nat) : Option Duration :=
  if h : n < 18446744073709551616 * 1000000000 then some ⟨n, h⟩ else none

/-- The length of `n` nanoseconds, cut down to `longest`. -/
def clamp (n : Nat) : Duration := (ofNanos? n).getD longest

/-- A whole number of seconds. -/
def ofSeconds (s : UInt64) : Duration :=
  ⟨s.toNat * 1000000000, by have := s.toNat_lt; omega⟩

/-- A whole number of milliseconds. -/
def ofMillis (ms : UInt64) : Duration :=
  ⟨ms.toNat * 1000000, by have := ms.toNat_lt; omega⟩

/-- A whole number of microseconds. -/
def ofMicros (us : UInt64) : Duration :=
  ⟨us.toNat * 1000, by have := us.toNat_lt; omega⟩

/-- Whole seconds, and the nanoseconds beyond them. -/
def parts (d : Duration) : Nat × Nat := (d.nanos / 1000000000, d.nanos % 1000000000)

/-- Whole milliseconds, rounded down. -/
def millis (d : Duration) : Nat := d.nanos / 1000000

/-- Whole microseconds, rounded down. -/
def micros (d : Duration) : Nat := d.nanos / 1000

/-- The low 64 bits of the whole milliseconds. -/
def millis64 (d : Duration) : UInt64 := d.millis.toUInt64

/-- The low 64 bits of the whole microseconds. -/
def micros64 (d : Duration) : UInt64 := d.micros.toUInt64

/-- `k` times the length, saturating at `longest`. -/
def scale (d : Duration) (k : Nat) : Duration := clamp (d.nanos * k)

/-! ### Order -/

instance : LE Duration := ⟨fun a b => a.nanos ≤ b.nanos⟩

instance : LT Duration := ⟨fun a b => a.nanos < b.nanos⟩

instance (a b : Duration) : Decidable (a ≤ b) := inferInstanceAs (Decidable (a.nanos ≤ b.nanos))

instance (a b : Duration) : Decidable (a < b) := inferInstanceAs (Decidable (a.nanos < b.nanos))

instance : Min Duration := ⟨fun a b => if a ≤ b then a else b⟩

instance : Max Duration := ⟨fun a b => if a ≤ b then b else a⟩

@[ext] theorem ext {a b : Duration} (h : a.nanos = b.nanos) : a = b := by
  cases a; cases b; simp_all

theorem le_def {a b : Duration} : a ≤ b ↔ a.nanos ≤ b.nanos := Iff.rfl

theorem lt_def {a b : Duration} : a < b ↔ a.nanos < b.nanos := Iff.rfl

@[simp] theorem nanos_min (a b : Duration) : (min a b).nanos = min a.nanos b.nanos := by
  change (if a ≤ b then a else b).nanos = _
  simp only [le_def]
  split <;> omega

@[simp] theorem nanos_max (a b : Duration) : (max a b).nanos = max a.nanos b.nanos := by
  change (if a ≤ b then b else a).nanos = _
  simp only [le_def]
  split <;> omega

@[simp] theorem nanos_clamp (n : Nat) :
    (clamp n).nanos = min n (18446744073709551616 * 1000000000 - 1) := by
  unfold clamp ofNanos?
  split <;> simp [longest] <;> omega

@[simp] theorem nanos_ofMillis (ms : UInt64) : (ofMillis ms).nanos = ms.toNat * 1000000 := rfl

@[simp] theorem nanos_ofMicros (us : UInt64) : (ofMicros us).nanos = us.toNat * 1000 := rfl

@[simp] theorem nanos_ofSeconds (s : UInt64) : (ofSeconds s).nanos = s.toNat * 1000000000 := rfl

end Duration

end Sluice
