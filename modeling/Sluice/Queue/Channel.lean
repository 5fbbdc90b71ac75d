import Sluice.Queue.Basic

/-!
# The queue inside one process

A `Channel` holds a bounded number of messages. Senders that find it full stand in line and are
served in the order in which they came.
-/

namespace Sluice

/-- A bounded queue. -/
structure Channel where
  /-- The greatest number of messages in it. -/
  capacity : Nat
  /-- The messages in it, the oldest one first. -/
  held : List Bytes
  /-- The senders that wait for room, in the order in which they came. -/
  line : List Nat
  /-- Nobody will take a message out any more. -/
  isClosed : Bool
  deriving DecidableEq, Repr

namespace Channel

/-- The greatest capacity of a queue. -/
def greatestCapacity : Nat := 2305843009213693951

/-- An empty queue for at least one message; none for more messages than a queue can hold. -/
def ofCapacity? (n : Nat) : Option Channel :=
  if n ≤ greatestCapacity then some ⟨max n 1, [], [], false⟩ else none

/-- The end that takes messages out goes away. -/
def close (c : Channel) : Channel := { c with isClosed := true }

/-- The number of messages for which there is room. -/
def room (c : Channel) : Nat := c.capacity - c.held.length

/-- The senders that come before one. -/
def before (c : Channel) (sender : Nat) : Nat := (c.line.takeWhile (· != sender)).length

/-- There is room for the message of a sender, given those that came before it. -/
def hasRoom (c : Channel) (sender : Nat) : Bool := c.before sender < c.room

/-- A sender leaves the line. -/
def withdraw (sender : Nat) (c : Channel) : Channel :=
  { c with line := c.line.filter (· != sender) }

/-- A sender stands in line, where it may stand already. -/
def enroll (sender : Nat) (c : Channel) : Channel :=
  if c.line.contains sender then c else { c with line := c.line ++ [sender] }

/-- Takes a message, or puts its sender in line (`publish`). -/
def offer (sender : Nat) (message : Bytes) (c : Channel) : Reception × Channel :=
  if c.isClosed then (.refused "queue consumer has shut down", c.withdraw sender)
  else if c.hasRoom sender then
    (.accepted, { c.withdraw sender with held := c.held ++ [message] })
  else (.later, c.enroll sender)

/-- The oldest message comes out. -/
def receive (c : Channel) : Option (Bytes × Channel) :=
  match c.held with
  | [] => none
  | m :: held => some (m, { c with held })

/-- The operations. -/
def queue : Queue Channel where
  name := "channel"
  offer := offer
  isReady sender c := c.isClosed || c.hasRoom sender
  withdraw := withdraw
  receive := receive

end Channel

end Sluice
