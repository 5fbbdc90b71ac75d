import Sluice.Gate.Basic

/-!
# Callers at the gate

Any number of callers share one store. A `Crowd` is where all of them stand; `Crowd.step?` does what
is due first, and of things due at one instant what belongs to the caller that comes first.

* `Crowd.ask` : a caller turns to the gate;
* `Crowd.hear` : it hears what the store has answered, in a turn of its own;
* `Crowd.run` : everything that is to be done.
-/

namespace Sluice

/-- When a caller comes, what it wants, and when its token fires (`await_admission`, and
`await_admission_until` with a deadline). -/
structure Caller where
  /-- The instant at which it comes. -/
  start : Instant
  /-- The bucket. -/
  bucket : String
  /-- The instant at which it gives up. -/
  deadline : Option Instant
  /-- The instant at which its token fires. -/
  cancel : Option Instant
  deriving DecidableEq, Repr

/-- Where a caller stands. -/
inductive Standing where
  /-- It has not come yet. -/
  | coming
  /-- It waits. -/
  | waits (v : Visit) (w : Waiting)
  /-- Its visit ended at an instant. -/
  | ended (at' : Instant) (v : Visit) (verdict : Verdict)
  /-- It broke down at an instant, because there was no sleep to choose. -/
  | broken (at' : Instant) (v : Visit)
  deriving DecidableEq, Repr

namespace Caller

/-- The token has fired. -/
def isCancelled (c : Caller) (now : Instant) : Bool := c.cancel.any (· ≤ now)

/-- The first visit. -/
def visit (c : Caller) (number : Nat) : Visit := ⟨number, c.bucket, c.deadline, 0⟩

/-- The instant at which there is something to do for a caller. While it waits for the store it does
not look at its token. -/
def due? (c : Caller) : Standing → Option Instant
  | .coming => some c.start
  | .waits _ (.answer i _) => some i
  | .waits _ (.wake t) => some (c.cancel.elim t.instant (min t.instant))
  | .ended .. | .broken .. => none

end Caller

/-- The callers at a gate, where they stand, the store, and what has been counted. -/
structure Crowd (σ : Type) where
  /-- The callers. -/
  callers : List (Caller × Standing)
  /-- The instant. -/
  now : Instant
  /-- The state of the store. -/
  state : σ
  /-- What has been counted. -/
  tally : Tally

/-- The surroundings of a crowd. -/
structure Gatehouse (σ : Type) where
  /-- The gate. -/
  gate : Gate
  /-- The store. -/
  store : Store σ
  /-- The wall clock at the start. -/
  start : Timestamp
  /-- The ticks that the store takes to answer. -/
  latency : Nat

namespace Crowd

variable {σ : Type}

/-- A crowd of which nobody has come. -/
def ofCallers (cs : List Caller) (state : σ) : Crowd σ := ⟨cs.map (·, .coming), 0, state, .zero⟩

/-- What there is to do, by the numbers of the callers. -/
def agenda (c : Crowd σ) : Agenda Nat Instant :=
  c.callers.zipIdx.filterMap fun ((caller, standing), n) =>
    (caller.due? standing).map fun i => (max c.now i, n)

/-- Where a turn at an instant leaves a caller. -/
def settle (now : Instant) : Gate.Next → Standing
  | .waits v w => .waits v w
  | .ends v verdict => .ended now v verdict
  | .breaks v => .broken now v

/-- A caller turns to the gate. It waits for what the store answers even if that comes at once. -/
def ask (h : Gatehouse σ) (now : Instant) (caller : Caller) (v : Visit) (state : σ)
    (tally : Tally) : Standing × σ × Tally :=
  match h.gate.enter h.store (Instant.clock h.start now) 1 v (caller.isCancelled now) now state
    tally with
  | (.waits v (.answer _ o), state, tally) =>
    (.waits v (.answer (now + Tick.instant h.latency) o), state, tally)
  | (n, state, tally) => (settle now n, state, tally)

/-- A caller hears what the store has answered. -/
def hear (h : Gatehouse σ) (now : Instant) (v : Visit) (o : Outcome) (tally : Tally) :
    Standing × Tally :=
  let (n, tally) := h.gate.heed v now o tally
  (settle now n, tally)

/-- Does what is due for one caller. -/
def serve (h : Gatehouse σ) (now : Instant) (caller : Caller) (number : Nat) (standing : Standing)
    (state : σ) (tally : Tally) : Standing × σ × Tally :=
  match standing with
  | .coming => ask h now caller (caller.visit number) state tally
  | .waits v (.wake _) => ask h now caller v state tally
  | .waits v (.answer _ o) =>
    let (standing, tally) := hear h now v o tally
    (standing, state, tally)
  | .ended .. | .broken .. => (standing, state, tally)

/-- Does what is due first; none if everybody's visit has ended. -/
def step? (h : Gatehouse σ) (c : Crowd σ) : Option (Crowd σ) := do
  let (now, n) ← c.agenda.first?
  let (caller, standing) ← c.callers[n]?
  let (standing, state, tally) := serve h now caller n standing c.state c.tally
  return ⟨c.callers.set n (caller, standing), now, state, tally⟩

/-- Does everything, `fuel` things at most. -/
def run (h : Gatehouse σ) : Nat → Crowd σ → Crowd σ
  | 0, c => c
  | fuel + 1, c =>
    match c.step? h with
    | some c => run h fuel c
    | none => c

end Crowd

end Sluice
