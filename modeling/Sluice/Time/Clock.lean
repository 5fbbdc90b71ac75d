import Sluice.Time.Timestamp

/-!
# The clock of a run

Things happen at instants of a run. Its timer counts whole milliseconds, the ticks: a sleep ends at
the first tick that is not before its end. The wall clock moves with the run.

* `Tick.instant` is the instant of a tick in nanoseconds, `Tick.atOrAfter` the first tick not before
  an instant;
* `Instant.clock` is the wall clock at an instant, `Tick.clock` at a tick;
* `Agenda.first?` picks what is due first.
-/

namespace Sluice

/-- Nanoseconds since the start of a run. -/
abbrev Instant := Int

/-- Whole milliseconds since the start of a run. -/
abbrev Tick := Nat

/-- The last instant of a clock that counts its seconds in 63 bits. -/
def Instant.last : Instant := 9223372036854775807 * 1000000000 + 999999999

/-- The wall clock at an instant of a run that began at `start`. -/
def Instant.clock (start : Timestamp) (i : Instant) : Timestamp :=
  windowEnd start (Duration.clamp i.toNat)

namespace Tick

/-- The instant of a tick. -/
def instant (t : Tick) : Instant := (t : Int) * 1000000

/-- The first tick that is not before an instant. -/
def atOrAfter (i : Instant) : Tick := ((i + 999999) / 1000000).toNat

/-- The wall clock at a tick of a run that began at `start`. -/
def clock (start : Timestamp) (t : Tick) : Timestamp := Instant.clock start (instant t)

end Tick

/-- Things to do with the times at which they are due, which are ticks if nothing else is said. -/
abbrev Agenda (α : Type) (κ : Type := Tick) := List (κ × α)

/-- The first of the things that are due first. -/
def Agenda.first? {α κ : Type} [LT κ] [DecidableLT κ] : Agenda α κ → Option (κ × α)
  | [] => none
  | x :: r =>
    match first? r with
    | some y => if y.1 < x.1 then some y else some x
    | none => some x

end Sluice
