import Sluice.Message.Response
import Sluice.Time.Clock

/-!
# Pending requests

A table of the requests that wait for their answer. Registering an id yields a ticket, under which
the settlement of the entry can be collected once.

* `Table.register`, `Table.resolve`, `Table.expire`, `Table.deregister` and `Table.sweep` act on the
  entries; an entry is settled at most once, and an expired one leaves the table;
* `Table.poll` and `Table.await` look into the box of a ticket;
* `Box` is what the holder of a ticket can still find there.
-/

namespace Sluice

/-- How an entry was settled. -/
inductive Settlement where
  /-- The answer came. -/
  | completed (r : Response)
  /-- The deadline passed. -/
  | expired
  /-- The entry was removed before either. -/
  | abandoned
  deriving DecidableEq, Repr

/-- What becomes of an answer. -/
inductive Resolution where
  /-- It settled its entry. -/
  | settled
  /-- The entry had been settled before. -/
  | alreadySettled
  /-- No entry has the id. -/
  | unknown
  deriving DecidableEq, Repr

/-- What the holder of a ticket can find. -/
inductive Box where
  /-- Nothing yet. -/
  | waiting
  /-- A settlement. -/
  | holding (s : Settlement)
  /-- Nothing any more: the entry is gone. -/
  | forsaken
  /-- Nothing any more: it has been collected. -/
  | collected
  deriving DecidableEq, Repr

/-- An entry of the table. -/
structure Entry where
  /-- The ticket of its registration. -/
  ticket : Nat
  /-- When it may expire. -/
  deadline : Instant
  /-- It has not been settled. -/
  isPending : Bool
  deriving DecidableEq, Repr

/-- Pending requests. -/
structure Table where
  /-- The entries by their ids. -/
  entries : List (Uuid × Entry)
  /-- The boxes of all tickets, in the order of registration. -/
  boxes : List Box
  deriving Repr

namespace Table

/-- No requests. -/
def empty : Table := ⟨[], []⟩

instance : Inhabited Table := ⟨empty⟩

/-- The entry of an id. -/
def find? (t : Table) (id : Uuid) : Option Entry := t.entries.lookup id

/-- An id is in the table. -/
def contains (t : Table) (id : Uuid) : Bool := (t.find? id).isSome

/-- The number of entries. -/
def size (t : Table) : Nat := t.entries.length

/-- There are no entries. -/
def isEmpty (t : Table) : Bool := t.entries.isEmpty

/-- Without the entry of an id. -/
def remove (t : Table) (id : Uuid) : Table :=
  { t with entries := t.entries.filter (·.1 != id) }

/-- With another content of a box. -/
def putBox (t : Table) (ticket : Nat) (b : Box) : Table :=
  { t with boxes := t.boxes.set ticket b }

/-! ### Entries -/

/-- Registers an id that is not in the table (`register`); yields the ticket. -/
def register (t : Table) (id : Uuid) (deadline : Instant) : Option Nat × Table :=
  if t.contains id then (none, t)
  else (some t.boxes.length,
    ⟨t.entries ++ [(id, ⟨t.boxes.length, deadline, true⟩)], t.boxes ++ [.waiting]⟩)

/-- Settles the entry of an id with an answer, if it is pending (`resolve`). -/
def resolve (t : Table) (id : Uuid) (r : Response) : Resolution × Table :=
  match t.find? id with
  | none => (.unknown, t)
  | some e =>
    if e.isPending then
      (.settled, { t.putBox e.ticket (.holding (.completed r)) with
        entries := t.entries.map fun x =>
          if x.1 = id then (x.1, { x.2 with isPending := false }) else x })
    else (.alreadySettled, t)

/-- Settles the entry of an id as expired and removes it, if it is pending (`expire`). -/
def expire (t : Table) (id : Uuid) : Bool × Table :=
  match t.find? id with
  | none => (false, t)
  | some e =>
    if e.isPending then (true, (t.putBox e.ticket (.holding .expired)).remove id) else (false, t)

/-- Removes the entry of an id (`deregister`). A pending one leaves its box forsaken. -/
def deregister (t : Table) (id : Uuid) : Bool × Table :=
  match t.find? id with
  | none => (false, t)
  | some e => (true, (if e.isPending then t.putBox e.ticket .forsaken else t).remove id)

/-- An entry is pending and its deadline has passed. -/
def isOverdue (now : Instant) (e : Entry) : Bool := e.isPending && e.deadline ≤ now

/-- The ids whose entries are overdue. -/
def overdue (t : Table) (now : Instant) : List Uuid :=
  (t.entries.filter fun x => isOverdue now x.2).map (·.1)

/-- Expires ids one after the other; counts those that were pending. -/
def expireAll (t : Table) (ids : List Uuid) : Nat × Table :=
  ids.foldl (fun (n, t) id =>
    match t.expire id with
    | (true, t) => (n + 1, t)
    | (false, t) => (n, t)) (0, t)

/-- Expires every overdue entry (`sweep_expired`); counts them. -/
def sweep (t : Table) (now : Instant) : Nat × Table := t.expireAll (t.overdue now)

/-! ### Boxes -/

/-- The box of a ticket. -/
def box (t : Table) (ticket : Nat) : Box := t.boxes.getD ticket .collected

/-- Collects what is in a box (`try_settlement`), if anything has been put there or never will
be. -/
def poll (t : Table) (ticket : Nat) : Option Settlement × Table :=
  match t.box ticket with
  | .waiting => (none, t)
  | .holding s => (some s, t.putBox ticket .collected)
  | .forsaken => (some .abandoned, t.putBox ticket .collected)
  | .collected => (some .abandoned, t)

/-- What a single look of somebody who waits for a box finds. -/
inductive Look where
  /-- Nothing yet. -/
  | notYet
  /-- The settlement. -/
  | settled (s : Settlement)
  /-- It must not be waited for, since it has been collected. -/
  | misuse
  deriving DecidableEq, Repr

/-- Looks into a box once (`settled`). -/
def await (t : Table) (ticket : Nat) : Look × Table :=
  match t.box ticket with
  | .waiting => (.notYet, t)
  | .holding s => (.settled s, t.putBox ticket .collected)
  | .forsaken => (.settled .abandoned, t)
  | .collected => (.misuse, t)

/-- The text for people. -/
def text (t : Table) : String := s!"CorrelationTable \x7b entries: {t.size} \x7d"

end Table

end Sluice
