import Sluice.Metrics.Tally
import Sluice.Pending.Table

/-!
# Pending requests and what is counted about them

A `Board` is a table with a tally. Its operations are those of the table; they keep the number of
pending entries up to date and count answers that came twice or for nobody.

A `Sweeper` sweeps a board at a first instant and then at equal intervals.
-/

namespace Sluice

/-- A table and what has been counted. -/
structure Board where
  /-- The pending requests. -/
  table : Table
  /-- What has been counted. -/
  tally : Tally

namespace Board

/-- No requests and nothing counted. -/
def empty : Board := ⟨.empty, .zero⟩

instance : Inhabited Board := ⟨empty⟩

/-- With another table, whose entries are counted (`update_gauge`). -/
def recount (b : Board) (t : Table) : Board := ⟨t, b.tally.setPending t.size⟩

/-- Registers an id; yields its ticket. -/
def register (b : Board) (id : Uuid) (deadline : Instant) : Except Failure Nat × Board :=
  match b.table.register id deadline with
  | (some ticket, t) => (.ok ticket, b.recount t)
  | (none, _) => (.error (.duplicateId id), b)

/-- Registers ids with one deadline; yields their tickets, or the first failure. -/
def registerAll (b : Board) (deadline : Instant) : List Uuid → Except Failure (List Nat × Board)
  | [] => .ok ([], b)
  | id :: ids =>
    match b.register id deadline with
    | (.error f, _) => .error f
    | (.ok ticket, b) => (registerAll b deadline ids).map fun r => (ticket :: r.1, r.2)

/-- Settles the entry of an id with an answer. -/
def resolve (b : Board) (id : Uuid) (r : Response) : Resolution × Board :=
  match b.table.resolve id r with
  | (.settled, t) => (.settled, { b with table := t })
  | (.alreadySettled, t) => (.alreadySettled, ⟨t, b.tally.duplicate⟩)
  | (.unknown, t) => (.unknown, ⟨t, b.tally.unknownId⟩)

/-- Expires an id. -/
def expire (b : Board) (id : Uuid) : Bool × Board :=
  match b.table.expire id with
  | (true, t) => (true, b.recount t)
  | (false, _) => (false, b)

/-- Removes an id. -/
def deregister (b : Board) (id : Uuid) : Bool × Board :=
  match b.table.deregister id with
  | (true, t) => (true, b.recount t)
  | (false, _) => (false, b)

/-- Expires every overdue entry (`sweep_expired`); counts them. -/
def sweep (b : Board) (now : Instant) : Nat × Board :=
  match b.table.sweep now with
  | (0, _) => (0, b)
  | (n, t) => (n, b.recount t)

/-- Collects what is in a box (`try_settlement`). -/
def poll (b : Board) (ticket : Nat) : Option Settlement × Board :=
  let (s, t) := b.table.poll ticket
  (s, { b with table := t })

/-- Collects what is in several boxes. -/
def pollAll (b : Board) : List Nat → List (Option Settlement) × Board
  | [] => ([], b)
  | ticket :: tickets =>
    let (s, b) := b.poll ticket
    let (ss, b) := pollAll b tickets
    (s :: ss, b)

/-- Looks into a box once (`settled`). -/
def await (b : Board) (ticket : Nat) : Table.Look × Board :=
  let (s, t) := b.table.await ticket
  (s, { b with table := t })

end Board

/-- Sweeps at `next` and then every `interval` nanoseconds, each time at the tick that comes first. -/
structure Sweeper where
  /-- The next sweep. -/
  next : Instant
  /-- Nanoseconds between sweeps. -/
  interval : Nat
  deriving DecidableEq, Repr

namespace Sweeper

/-- Sweeps everything due until an instant; `fuel` bounds the number of sweeps. -/
def runFor (fuel : Nat) (s : Sweeper) (until' : Instant) (b : Board) : Sweeper × Board :=
  match fuel with
  | 0 => (s, b)
  | fuel + 1 =>
    let now := Tick.instant (Tick.atOrAfter s.next)
    if now ≤ until' then
      runFor fuel { s with next := s.next + s.interval } until' (b.sweep now).2
    else (s, b)

/-- Sweeps everything due until an instant (`spawn_sweeper`). -/
def run (s : Sweeper) (until' : Instant) (b : Board) : Sweeper × Board :=
  s.runFor ((until' - s.next).toNat / max s.interval 1 + 1) until' b

end Sweeper

end Sluice
