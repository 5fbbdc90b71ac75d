import Sluice.Failure
import Sluice.Message.Request
import Sluice.Metrics.Tally

/-!
# Queues

A `Queue τ` takes messages into a state of type `τ`. A sender that offers a message is accepted,
refused, or must wait until the queue is ready for it.

* `Queue.send` offers a request and counts a refusal;
* `Queue.sendEach` offers several requests in turn, whose senders do not wait.
-/

namespace Sluice

/-- What a queue says to a sender. -/
inductive Reception where
  /-- The message is in the queue. -/
  | accepted
  /-- The queue does not take the message. -/
  | refused (reason : String)
  /-- The sender has to offer the message again when the queue is ready for it. -/
  | later
  deriving DecidableEq, Repr

/-- The operations of a queue. Senders have numbers. -/
structure Queue (τ : Type) where
  /-- The name of this kind of queue. -/
  name : String
  /-- Offers the message of a sender. -/
  offer : Nat → Bytes → τ → Reception × τ
  /-- A sender that had to wait would not have to wait any longer. -/
  isReady : Nat → τ → Bool
  /-- A sender that had to wait goes away. -/
  withdraw : Nat → τ → τ
  /-- The message that comes out next. -/
  receive : τ → Option (Bytes × τ)

namespace Queue

variable {τ : Type}

/-- Offers a request (`send`); none if its sender has to wait. -/
def send (q : Queue τ) (sender : Nat) (r : Request) (line : τ) (tally : Tally) :
    Option (Except Failure Unit) × τ × Tally :=
  match q.offer sender r.toUtf8 line with
  | (.accepted, line) => (some (.ok ()), line, tally)
  | (.refused reason, line) => (some (.error (.relayUnavailable reason)), line, tally.failSend)
  | (.later, line) => (none, line, tally)

/-- Offers requests in turn, each by a sender that goes away if it would have to wait; then there is
no result. What happens before each offer is given by `before`. -/
def sendEach (q : Queue τ) (before : Nat → τ → τ) :
    Nat → List Request → τ → Tally → List (Option (Except Failure Unit)) × τ × Tally
  | _, [], line, tally => ([], line, tally)
  | sender, r :: rs, line, tally =>
    let (res, line, tally) := q.send sender r (before sender line) tally
    let line := if res.isNone then q.withdraw sender line else line
    let (results, line, tally) := sendEach q before (sender + 1) rs line tally
    (res :: results, line, tally)

/-- The text for people. -/
def text (q : Queue τ) : String := "RelayClient \x7b transport: \"" ++ q.name ++ "\" \x7d"

end Queue

end Sluice
