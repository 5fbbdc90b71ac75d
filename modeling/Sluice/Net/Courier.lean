import Sluice.Message.Frame
import Sluice.Net.Address

/-!
# Sending responses back

A `Courier` opens a connection to the address that a request names, puts the frames of its responses
into it one after the other, and closes it.

* `Contact` is what comes of an attempt to connect;
* `Courier.send` sends any number of responses over one connection.
-/

namespace Sluice

/-- What comes of an attempt to connect. -/
inductive Contact where
  /-- A connection, with what has been put into it. -/
  | joined (k : Frame.Sink)
  /-- The attempt fails. -/
  | refused (reason : String)
  /-- Nothing, for longer than anybody waits. -/
  | silent
  deriving DecidableEq, Repr

/-- What comes of an attempt to connect to any address. -/
abbrev Network := String → Contact

namespace Network

/-- The network of a directory of hosts and of what their addresses do. -/
def ofDirectory (isKnown : String → Bool) (dial : Address → Contact) : Network := fun s =>
  match Address.find isKnown s with
  | .ok a => dial a
  | .error f => .refused f.message

end Network

/-- How responses are sent. -/
structure Courier where
  /-- How long an attempt to connect may take. -/
  patience : Duration
  deriving DecidableEq, Repr

namespace Courier

/-- The usual courier, which waits for five seconds. -/
def standard : Courier := ⟨.ofMillis 5000⟩

/-- Puts frames into a connection until one does not go in (`send_batch`). -/
def deliver (k : Frame.Sink) : List Response → Except Failure Unit × Frame.Sink
  | [] => (.ok (), k)
  | r :: rs =>
    match Frame.write k r with
    | (.ok (), k) => deliver k rs
    | (.error f, k) => (.error f, k)

/-- Sends responses to an address; also yields what has arrived there. -/
def send (c : Courier) (net : Network) (address : String) (rs : List Response) :
    Except Failure Unit × Bytes :=
  match net address with
  | .joined k =>
    let (res, k) := deliver k rs
    (res, k.written)
  | .refused reason =>
    (.error (.network ("failed to connect to " ++ address ++ ": " ++ reason)), [])
  | .silent =>
    (.error (.network ("connect to " ++ address ++ " timed out after " ++ c.patience.text)), [])

/-- The text for people. -/
def text (c : Courier) : String :=
  "ResponseSender \x7b connect_timeout: " ++ c.patience.text ++ " \x7d"

end Courier

end Sluice
