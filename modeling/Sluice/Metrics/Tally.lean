import Sluice.Catalog
import Sluice.Time.Seconds

/-!
# Counting what happens

A `Tally` counts grants and denials, ended invocations and how long they took, answers and failures,
and holds the number of pending entries. The functions on it are named for what happened.
-/

namespace Sluice

/-- What has happened so far. -/
structure Tally where
  /-- Units granted. -/
  granted : Nat
  /-- Denials by bucket. -/
  denied : Catalog Nat
  /-- Ended invocations by their last state. -/
  ended : Catalog Nat
  /-- How long invocations took in seconds, by their last state, the last one first. -/
  durations : Catalog (List Float)
  /-- Pending entries. -/
  pending : Int
  /-- Responses read. -/
  received : Nat
  /-- Responses for entries that were settled. -/
  duplicates : Nat
  /-- Responses for ids that were not pending. -/
  unknown : Nat
  /-- Connections that carried something else than frames. -/
  malformed : Nat
  /-- Messages that the queue did not take. -/
  sendFailures : Nat
  /-- Corrections that the store did not take. -/
  correctionFailures : Nat

namespace Tally

/-- Nothing has happened. -/
def zero : Tally := ⟨0, .empty, .empty, .empty, 0, 0, 0, 0, 0, 0, 0⟩

instance : Inhabited Tally := ⟨zero⟩

/-- One more in a catalog of counts. -/
def bump (c : Catalog Nat) (name : String) : Catalog Nat := c.update name (·.getD 0 + 1)

/-- A unit was granted. -/
def grant (t : Tally) : Tally := { t with granted := t.granted + 1 }

/-- A bucket denied a unit. -/
def deny (t : Tally) (bucket : String) : Tally := { t with denied := bump t.denied bucket }

/-- An invocation ended in a state after some seconds. -/
def finish (t : Tally) (state : String) (seconds : Float) : Tally :=
  { t with
    ended := bump t.ended state
    durations := t.durations.update state fun ds => seconds :: ds.getD [] }

/-- This many entries are pending. -/
def setPending (t : Tally) (n : Int) : Tally := { t with pending := n }

/-- A response was read. -/
def receive (t : Tally) : Tally := { t with received := t.received + 1 }

/-- A response came for a settled entry. -/
def duplicate (t : Tally) : Tally := { t with duplicates := t.duplicates + 1 }

/-- A response came for an id that is not pending. -/
def unknownId (t : Tally) : Tally := { t with unknown := t.unknown + 1 }

/-- A connection carried something else than frames. -/
def malform (t : Tally) : Tally := { t with malformed := t.malformed + 1 }

/-- The queue did not take a message. -/
def failSend (t : Tally) : Tally := { t with sendFailures := t.sendFailures + 1 }

/-- The store did not take a correction. -/
def failCorrection (t : Tally) : Tally :=
  { t with correctionFailures := t.correctionFailures + 1 }

/-! ### Names -/

/-- The name of a count with a label. -/
def labelled (name label : String) : String := name ++ "\x7b" ++ label ++ "\x7d"

/-- Every count that is not zero by its name; of durations their number counts. -/
def counters (t : Tally) : List (String × Int) :=
  let one (name : String) (n : Int) : List (String × Int) := if n = 0 then [] else [(name, n)]
  let many (name : String) (c : Catalog Nat) : List (String × Int) :=
    c.toList.map fun e => (labelled name e.1, e.2)
  one "relay_admission_granted_total" t.granted ++
    many "relay_admission_denied_total" t.denied ++
    many "relay_invocations_total" t.ended ++
    (t.durations.toList.map fun e =>
      (labelled "relay_invocation_duration_seconds" e.1, (e.2.length : Int))) ++
    one "relay_pending_entries" t.pending ++
    one "relay_responses_received_total" t.received ++
    one "relay_duplicate_responses_total" t.duplicates ++
    one "relay_unknown_responses_total" t.unknown ++
    one "relay_malformed_frames_total" t.malformed ++
    one "relay_send_failures_total" t.sendFailures ++
    one "relay_bucket_correction_failures_total" t.correctionFailures

end Tally

end Sluice
