import Sluice.Failure
import Sluice.Metrics.Tally
import Sluice.Quota.Bucket

/-!
# Bucket stores

A `Store σ` keeps buckets in a state of type `σ`. Each operation is one step from a state to a
state, so two callers never both see the last unit of a bucket. The clock reading comes with the
call.

* `Store.correctOrCount` feeds limits back and counts a failure instead of reporting it;
* `Store.failing` is a store of which some operations fail before they touch anything.
-/

namespace Sluice

/-- The operations of a bucket store. -/
structure Store (σ : Type) where
  /-- The bucket of an id, made if nobody has seen it before. -/
  get : Timestamp → String → σ → Except Failure Bucket × σ
  /-- Takes units from the bucket of an id. -/
  take : Timestamp → String → UInt32 → σ → Except Failure Outcome × σ
  /-- Overwrites the bucket of an id with what the remote reported. -/
  correct : Timestamp → String → Snapshot → σ → Except Failure Unit × σ
  /-- All buckets in the order of their ids. -/
  list : σ → Except Failure (List Bucket)

namespace Store

variable {σ : Type}

/-- Overwrites a bucket (`apply_limits_best_effort`); a failure is counted, and the answer says
whether it went well. -/
def correctOrCount (s : Store σ) (now : Timestamp) (id : String) (limits : Snapshot)
    (state : σ) (tally : Tally) : Bool × σ × Tally :=
  match s.correct now id limits state with
  | (.ok (), state) => (true, state, tally)
  | (.error _, state) => (false, state, tally.failCorrection)

/-- Takes units `n` times at once; the answer counts the grants and stops at a failure. -/
def burst (s : Store σ) (now : Timestamp) (id : String) (cost : UInt32) (n : Nat) (state : σ) :
    Except Failure Nat × σ :=
  match n with
  | 0 => (.ok 0, state)
  | n + 1 =>
    match s.take now id cost state with
    | (.error f, state) => (.error f, state)
    | (.ok o, state) =>
      match burst s now id cost n state with
      | (.ok k, state) => (.ok (if o.isGranted then k + 1 else k), state)
      | (.error f, state) => (.error f, state)

/-- A store with a number of taking operations so far, of which those at certain places fail, and
of which correcting may fail. -/
def failing (s : Store σ) (failTake : List Nat) (failCorrect : Bool) : Store (Nat × σ) where
  get now id := fun (n, st) => let (r, st) := s.get now id st; (r, n, st)
  take now id cost := fun (n, st) =>
    if failTake.contains n then (.error (.store "unavailable"), n + 1, st)
    else let (r, st) := s.take now id cost st; (r, n + 1, st)
  correct now id limits := fun (n, st) =>
    if failCorrect then (.error (.store "unavailable"), n, st)
    else let (r, st) := s.correct now id limits st; (r, n, st)
  list := fun (_, st) => s.list st

end Store

end Sluice
