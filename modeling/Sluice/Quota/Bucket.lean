import Sluice.Time.Timestamp

/-!
# Buckets

A bucket is a named scope with a fixed number of units per window.

* `Bucket.fresh` starts a window with all its units;
* `Bucket.roll` starts the next window once the current one has ended;
* `Bucket.take` rolls, then takes units or says how long to wait;
* `Bucket.correct` overwrites the state with what the remote reported.

Here and below the name in brackets is that under which the relay offers an operation.
-/

namespace Sluice

/-- The units and the window of a bucket that nobody has seen before. -/
structure Limits where
  /-- Units per window. -/
  limit : UInt32
  /-- Length of a window. -/
  window : Duration
  deriving DecidableEq, Repr

/-- Five units a second. -/
def Limits.standard : Limits := ⟨5, .ofSeconds 1⟩

instance : Inhabited Limits := ⟨.standard⟩

/-- What the remote reports about a bucket. -/
structure Snapshot where
  /-- Units per window. -/
  limit : UInt32
  /-- Units left in the window. -/
  remaining : UInt32
  /-- The end of the window. -/
  resetAt : Timestamp
  deriving DecidableEq, Repr

/-- The state of one bucket. -/
structure Bucket where
  /-- The name. -/
  id : String
  /-- Units per window. -/
  limit : UInt32
  /-- Units left in the current window. -/
  remaining : UInt32
  /-- The end of the current window. -/
  resetAt : Timestamp
  /-- Length of the windows to come. -/
  window : Duration
  /-- The last change. -/
  updatedAt : Timestamp
  deriving DecidableEq, Repr

/-- The answer to a request for units. -/
inductive Outcome where
  /-- The units were taken, and this many are left. -/
  | granted (remaining : UInt32)
  /-- Too few units are left; the window ends after this time. -/
  | denied (retryAfter : Duration)
  deriving DecidableEq, Repr

/-- The units were taken. -/
def Outcome.isGranted : Outcome → Bool
  | .granted _ => true
  | .denied _ => false

namespace Bucket

/-- A bucket whose first window starts at `now`. -/
def fresh (id : String) (limits : Limits) (now : Timestamp) : Bucket :=
  ⟨id, limits.limit, limits.limit, windowEnd now limits.window, limits.window, now⟩

/-- The current window has ended. -/
def isOver (b : Bucket) (now : Timestamp) : Bool := !decide (now < b.resetAt)

/-- Starts the next window if the current one has ended (`roll_window`). -/
def roll (b : Bucket) (now : Timestamp) : Bucket :=
  if b.isOver now then
    { b with remaining := b.limit, resetAt := windowEnd now b.window, updatedAt := now }
  else b

/-- Takes `cost` units, all or none (`consume`). -/
def take (b : Bucket) (cost : UInt32) (now : Timestamp) : Outcome × Bucket :=
  let b := b.roll now
  if cost ≤ b.remaining then
    (.granted (b.remaining - cost), { b with remaining := b.remaining - cost, updatedAt := now })
  else (.denied (b.resetAt.since now), b)

/-- Overwrites the current window with what the remote reported (`apply_snapshot`). -/
def correct (b : Bucket) (s : Snapshot) (now : Timestamp) : Bucket :=
  { b with
    limit := s.limit
    remaining := min s.remaining s.limit
    resetAt := s.resetAt
    updatedAt := now }

end Bucket

end Sluice
