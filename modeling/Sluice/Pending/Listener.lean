import Sluice.Message.Frame
import Sluice.Net.Address
import Sluice.Pending.Board

/-!
# Receiving responses

Workers connect and send frames; each response settles the pending request that has its id. Bytes
that are no frame end their own connection and no other.

* `Intake.step` reads one frame from one connection, so any interleaving of connections is a
  sequence of such steps;
* `Intake.drain` reads one connection to its end;
* `Listener.bind` says where to listen;
* `Listener.pause` is how long to wait before connections are accepted again when accepting failed.
-/

namespace Sluice

/-- A connection: what is still to come, how many responses it has brought, and how it ended. -/
structure Connection where
  /-- What is still to come. -/
  source : Source
  /-- The number of responses so far. -/
  dispatched : Nat
  /-- How it ended, if it has. -/
  ending : Option Frame.Ending
  deriving DecidableEq, Repr

/-- A connection of which nothing has been read. -/
def Connection.ofSource (src : Source) : Connection := ⟨src, 0, none⟩

namespace Intake

/-- A response arrives. -/
def receive (r : Response) (b : Board) : Board :=
  ({ b with tally := b.tally.receive }.resolve r.id r).2

/-- A connection ends; one that carries something else than frames is counted. -/
def finish (e : Frame.Ending) (b : Board) : Board :=
  match e with
  | .fault _ => { b with tally := b.tally.malform }
  | .done | .broken _ => b

/-- Reads one frame of at most `bound` bytes from a connection that has not ended. -/
def step (bound : Nat) (c : Connection) (b : Board) : Connection × Board :=
  match c.ending with
  | some _ => (c, b)
  | none =>
    match Frame.next bound c.source with
    | (.response r, rest) => (⟨rest, c.dispatched + 1, none⟩, receive r b)
    | (.done, rest) => (⟨rest, c.dispatched, some .done⟩, finish .done b)
    | (.fault f, rest) => (⟨rest, c.dispatched, some (.fault f)⟩, finish (.fault f) b)
    | (.broken t, rest) => (⟨rest, c.dispatched, some (.broken t)⟩, finish (.broken t) b)

/-- Reads a connection to its end (`handle_connection`); yields the number of its responses. -/
def drain (bound : Nat) (src : Source) (b : Board) : Nat × Board :=
  let (rs, e) := Frame.readAll bound src
  (rs.length, finish e (rs.foldl (fun b r => receive r b) b))

/-- One frame from the connection at a place among several. -/
def stepAt (bound place : Nat) (cs : List Connection) (b : Board) : List Connection × Board :=
  match cs[place]? with
  | none => (cs, b)
  | some c =>
    let (c, b) := step bound c b
    (cs.set place c, b)

/-- Frames from connections in the order of their places. -/
def run (bound : Nat) : List Nat → List Connection → Board → List Connection × Board
  | [], cs, b => (cs, b)
  | place :: places, cs, b =>
    let (cs, b) := stepAt bound place cs b
    run bound places cs b

end Intake

namespace Listener

/-- What comes of listening at an address: a port, or the reason why not. -/
abbrev Ground := String → Except String UInt16

/-- The ground of a directory of hosts and of what their addresses do. -/
def Ground.ofDirectory (isKnown : String → Bool) (open' : Address → Except String UInt16) :
    Ground := fun s =>
  match Address.find isKnown s with
  | .ok a => open' a
  | .error f => .error f.message

/-- Listens at an address; yields the port. -/
def bind (ground : Ground) (address : String) : Except Failure UInt16 :=
  match ground address with
  | .ok port => .ok port
  | .error reason => .error (.network ("failed to bind " ++ address ++ ": " ++ reason))

/-- The first pause. -/
def firstPause : Duration := .ofMillis 10

/-- The longest pause. -/
def longestPause : Duration := .ofMillis 1000

/-- The pause after a number of failures in a row, twice as long after each of them
(`accept_backoff`). -/
def pause (failures : Nat) : Duration :=
  min (firstPause.scale (Nat.pow 2 (min (failures - 1) 16))) longestPause

end Listener

end Sluice
