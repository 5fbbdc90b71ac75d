import Sluice.Time.Duration
import Sluice.Time.Calendar

/-!
# Points in time

A `Timestamp` is a second counted from 1970-01-01T00:00:00Z and the nanoseconds since that second
began. A leap second has no number of its own: it is the part from 1000000000 nanoseconds on of
the last second of its minute.

* the calendar ends at `Timestamp.latest`; arithmetic that would leave it has no result;
* `Timestamp.add?` moves forward by a duration, `Timestamp.nanosSince` measures the way back;
* `Timestamp.millis` and `Timestamp.ofMillis?` convert to and from whole milliseconds, rounding
  toward the past;
* `windowEnd` is the end of a window, saturating at `Timestamp.latest`.
-/

namespace Sluice

/-- A point in time. -/
structure Timestamp where
  /-- Seconds from 1970-01-01T00:00:00Z. -/
  secs : Int
  /-- Nanoseconds since that second began; a leap second continues from 1000000000. -/
  nanos : Nat
  /-- Not before the calendar begins, in the year -262143. -/
  first_le : -8334601228800 ≤ secs
  /-- Not after the calendar ends, in the year 262142. -/
  le_last : secs ≤ 8210266876799
  /-- At most one leap second follows a second. -/
  nanos_lt : nanos < 2000000000
  /-- Only the last second of a minute has a leap second. -/
  leap : nanos < 1000000000 ∨ secs % 60 = 59
  deriving DecidableEq, Repr

namespace Timestamp

/-- The end of the calendar. -/
def latest : Timestamp := ⟨8210266876799, 999999999, by decide, by decide, by decide, by decide⟩

/-- The start of 1970. -/
def epoch : Timestamp := ⟨0, 0, by decide, by decide, by decide, by decide⟩

instance : Inhabited Timestamp := ⟨epoch⟩

/-- The point with these parts, if the calendar has it. -/
def ofParts? (secs : Int) (nanos : Nat) : Option Timestamp :=
  if h : -8334601228800 ≤ secs ∧ secs ≤ 8210266876799 ∧ nanos < 2000000000 ∧
      (nanos < 1000000000 ∨ secs % 60 = 59) then
    some ⟨secs, nanos, h.1, h.2.1, h.2.2.1, h.2.2.2⟩
  else none

/-- Within a leap second. -/
def isLeap (t : Timestamp) : Bool := 1000000000 ≤ t.nanos

/-! ### Order -/

instance : LT Timestamp := ⟨fun a b => a.secs < b.secs ∨ a.secs = b.secs ∧ a.nanos < b.nanos⟩

instance : LE Timestamp := ⟨fun a b => a.secs < b.secs ∨ a.secs = b.secs ∧ a.nanos ≤ b.nanos⟩

instance (a b : Timestamp) : Decidable (a < b) :=
  inferInstanceAs (Decidable (a.secs < b.secs ∨ a.secs = b.secs ∧ a.nanos < b.nanos))

instance (a b : Timestamp) : Decidable (a ≤ b) :=
  inferInstanceAs (Decidable (a.secs < b.secs ∨ a.secs = b.secs ∧ a.nanos ≤ b.nanos))

theorem lt_def {a b : Timestamp} :
    a < b ↔ a.secs < b.secs ∨ a.secs = b.secs ∧ a.nanos < b.nanos := Iff.rfl

theorem le_def {a b : Timestamp} :
    a ≤ b ↔ a.secs < b.secs ∨ a.secs = b.secs ∧ a.nanos ≤ b.nanos := Iff.rfl

@[ext] theorem ext {a b : Timestamp} (hs : a.secs = b.secs) (hn : a.nanos = b.nanos) : a = b := by
  cases a; cases b; simp_all

/-! ### Arithmetic -/

/-- The point that long after `t`, if the calendar has it. A sum that does not reach the end of
the leap second it starts in stays there. -/
def add? (t : Timestamp) (d : Duration) : Option Timestamp :=
  let (ds, dn) := d.parts
  if 1000000000 ≤ t.nanos ∧ ds = 0 ∧ t.nanos + dn < 2000000000 then
    ofParts? t.secs (t.nanos + dn)
  else
    let n := t.nanos % 1000000000 + dn
    ofParts? (t.secs + ds + (n / 1000000000 : Nat)) (n % 1000000000)

/-- Nanoseconds from `b` to `a`. Between seconds of one day a leap second that lies on the way
counts. -/
def nanosSince (a b : Timestamp) : Int :=
  let dayOf (t : Timestamp) : Int := t.secs / 86400
  let clockOf (t : Timestamp) : Int := t.secs % 86400
  let counted : Int :=
    if clockOf b < clockOf a ∧ b.isLeap then 1
    else if clockOf a < clockOf b ∧ a.isLeap then -1
    else 0
  ((dayOf a - dayOf b) * 86400 + (clockOf a - clockOf b) + counted) * 1000000000
    + ((a.nanos : Int) - b.nanos)

/-- The time from `b` to `a`, nothing if `a` comes first. -/
def since (a b : Timestamp) : Duration := Duration.clamp (nanosSince a b).toNat

/-- Whole milliseconds from 1970, rounded toward the past. -/
def millis (t : Timestamp) : Int := t.secs * 1000 + (t.nanos / 1000000 : Nat)

/-- The point that many milliseconds from 1970, if the calendar has it. -/
def ofMillis? (ms : Int) : Option Timestamp :=
  ofParts? (ms / 1000) ((ms % 1000).toNat * 1000000)

/-! ### The clock face -/

/-- The date. -/
def date (t : Timestamp) : Date := Calendar.dateOf (t.secs / 86400)

/-- Hour, minute and second. -/
def clock (t : Timestamp) : Nat × Nat × Nat :=
  let s := (t.secs % 86400).toNat
  (s / 3600, s / 60 % 60, s % 60)

end Timestamp

/-- The end of a window that starts at `start`: the calendar's end if it lies beyond that
(`window_end`). -/
def windowEnd (start : Timestamp) (window : Duration) : Timestamp :=
  (start.add? window).getD Timestamp.latest

end Sluice
