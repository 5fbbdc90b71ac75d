import Sluice.Number.Binary64
import Sluice.Quota.Backoff
import Sluice.Quota.Store
import Sluice.Time.Clock

/-!
# The gate

A caller of the gate asks the store for one unit of a bucket. After a denial it sleeps and asks
again, until a unit is granted, its deadline has passed, its token has fired or the store fails.

* `Gate.enter` is one turn: the token, the deadline, then the store;
* `Gate.heed` is what the caller makes of the store's answer: after a denial it sleeps, or it breaks
  down because there is no sleep to choose;
* `Gate.Next` says where that leaves the caller.

Callers may come at any instant; a sleep ends at a tick. A store may take some ticks to answer. What
it decided stands from the moment it was asked.
-/

namespace Sluice

/-- The backoff of a gate and its source of chance: a number for each caller and each of its
denials. -/
structure Gate where
  /-- The bounds of the sleeps. -/
  backoff : Backoff
  /-- The number drawn for a caller after so many denials. -/
  chance : Nat → UInt32 → UInt64

/-- What a caller wants and has met so far. -/
structure Visit where
  /-- The number of the caller. -/
  caller : Nat
  /-- The bucket. -/
  bucket : String
  /-- The instant at which the caller gives up. -/
  deadline : Option Instant
  /-- Denials so far. -/
  denials : UInt32
  deriving DecidableEq, Repr

/-- How a visit to the gate ends. -/
inductive Verdict where
  /-- A unit was granted; this many are left. -/
  | granted (remaining : UInt32)
  /-- The deadline passed. -/
  | late
  /-- The token fired or the store failed. -/
  | failed (f : Failure)
  deriving DecidableEq, Repr

/-- What a caller waits for. -/
inductive Waiting where
  /-- The store's answer, which comes at an instant. -/
  | answer (at' : Instant) (o : Outcome)
  /-- The end of a sleep, which comes at a tick. -/
  | wake (at' : Tick)
  deriving DecidableEq, Repr

namespace Gate

/-- Where a turn leaves a caller. -/
inductive Next where
  /-- It waits. -/
  | waits (v : Visit) (w : Waiting)
  /-- Its visit has ended. -/
  | ends (v : Visit) (verdict : Verdict)
  /-- It breaks down, because there is no sleep to choose. -/
  | breaks (v : Visit)
  deriving DecidableEq, Repr

/-- One more denial; the count stays at its greatest value. -/
def countDenial (n : UInt32) : UInt32 := if n = 4294967295 then n else n + 1

/-- How long a caller sleeps after a denial with a hint. -/
def sleep (g : Gate) (v : Visit) (hint : Duration) : Duration :=
  let spread := g.backoff.spread v.denials hint
  spread.delay (spread.choose (g.chance v.caller v.denials))

/-- The tick at which a sleep ends, which is not after the deadline (`sleep_or_cancel`). -/
def wakeTick (v : Visit) (now : Instant) (delay : Duration) : Tick :=
  let wake := now + delay.nanos
  Tick.atOrAfter (match v.deadline with
    | some d => min wake d
    | none => wake)

/-- Where a denial with a hint leaves a caller. -/
def sleepOn (g : Gate) (v : Visit) (now : Instant) (hint : Duration) : Next :=
  if (g.backoff.spread v.denials hint).isPossible then
    .waits { v with denials := countDenial v.denials } (.wake (wakeTick v now (g.sleep v hint)))
  else .breaks v

/-- What the caller makes of the store's answer (`admit`). -/
def heed (g : Gate) (v : Visit) (now : Instant) (o : Outcome) (tally : Tally) : Next × Tally :=
  match o with
  | .granted remaining => (.ends v (.granted remaining), tally.grant)
  | .denied hint => (g.sleepOn v now hint, tally.deny v.bucket)

/-- The deadline of a visit has passed. -/
def isLate (v : Visit) (now : Instant) : Bool := v.deadline.any (· ≤ now)

variable {σ : Type}

/-- One turn of a caller whose token has fired or not (`admit`). -/
def enter (g : Gate) (s : Store σ) (clock : Timestamp) (latency : Nat) (v : Visit)
    (cancelled : Bool) (now : Instant) (state : σ) (tally : Tally) : Next × σ × Tally :=
  if cancelled then (.ends v (.failed .cancelled), state, tally)
  else if isLate v now then (.ends v .late, state, tally)
  else match s.take clock v.bucket 1 state with
    | (.error f, state) => (.ends v (.failed f), state, tally)
    | (.ok o, state) =>
      if latency = 0 then
        let (n, tally) := g.heed v now o tally
        (n, state, tally)
      else (.waits v (.answer (now + Tick.instant latency) o), state, tally)

/-- The text of the gate for people. -/
def text (g : Gate) : String :=
  "AdmissionController \x7b backoff: BackoffConfig \x7b base_delay: " ++ g.backoff.base.text ++
    ", max_delay: " ++ g.backoff.longest.text ++ ", jitter: " ++
    Binary64.text ⟨true, true⟩ g.backoff.jitter ++ " \x7d, .. \x7d"

end Gate

end Sluice
