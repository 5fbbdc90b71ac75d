import Sluice.Message.Frame

/-!
# Pools of workers

A pool takes messages out of a queue and works on several of them at once, but on no more than its
width. When the queue closes the pool works off what is left; when it is cancelled it drops
everything.

* `Pool.Stage` is what the pool waits for: a message, a place for the message it has taken, or the
  end of what it works on;
* `Pool.Event` is something that can happen;
* `Pool.step?` is what it does, and none if it cannot happen;
* `Pool.isOver` says that the pool has stopped.

A pool that is cancelled takes no message and begins no work from then on, but it is only with
`Event.leave` that it notices, and what it works on goes on until it is dropped. While it waits for
the end of what it works on because the queue has closed, it no longer listens to the token.
-/

namespace Sluice

/-- A message with its number among all. -/
structure Job where
  /-- Its number. -/
  number : Nat
  /-- The message. -/
  message : Bytes
  deriving DecidableEq, Repr

/-- What a pool waits for. -/
inductive Pool.Stage where
  /-- A message. -/
  | looking
  /-- A place for the message that it has taken out of the queue. -/
  | holding (job : Job)
  /-- The end of what it works on; the queue has closed. -/
  | draining
  /-- The end of what it works on; the pool has been cancelled. -/
  | dropping
  deriving DecidableEq, Repr

/-- A pool. -/
structure Pool where
  /-- The number of messages that it works on at once. -/
  width : Nat
  /-- The messages that have come, the first one first. -/
  came : List Job
  /-- Messages in the queue, the oldest one first. -/
  queued : List Job
  /-- What the pool waits for. -/
  stage : Pool.Stage
  /-- Messages that are being worked on. -/
  running : List Job
  /-- Messages on which work has begun, the first one first. -/
  begun : List Job
  /-- Messages that have been worked off, the first one first. -/
  finished : List Job
  /-- Messages that have been given up after they had left the queue. -/
  dropped : List Job
  /-- Nothing more will come. -/
  isClosed : Bool
  /-- The pool has been cancelled. -/
  isCancelled : Bool
  deriving DecidableEq, Repr

namespace Pool

/-- The usual number of messages that a pool works on at once. -/
def standardWidth : Nat := 32

/-- The greatest width of a pool. -/
def greatestWidth : Nat := 2305843009213693951

/-- A pool for at least one message at once (`with_concurrency`); none for more than a pool can have
places for. -/
def ofWidth? (n : Nat) : Option Pool :=
  if n ≤ greatestWidth then some ⟨max n 1, [], [], .looking, [], [], [], [], false, false⟩ else none

/-- Something that can happen. -/
inductive Event where
  /-- A message comes. -/
  | arrive (message : Bytes)
  /-- The queue closes. -/
  | close
  /-- The pool is cancelled. -/
  | cancel
  /-- The oldest message leaves the queue. -/
  | take
  /-- There is a place for the message that has left the queue, and work on it begins. -/
  | start
  /-- The pool notices that it has been cancelled or that nothing more will come. -/
  | leave
  /-- Work on a message comes to its end. -/
  | finish (number : Nat)
  /-- Work on a message is given up. -/
  | drop (number : Nat)
  deriving DecidableEq, Repr

/-- The message that has been taken out of the queue, if one waits for a place. -/
def Stage.held : Stage → List Job
  | .holding j => [j]
  | .looking | .draining | .dropping => []

/-- The pool still looks for messages. -/
def Stage.isLooking : Stage → Bool
  | .looking | .holding _ => true
  | .draining | .dropping => false

/-- There is a place for one more message. -/
def hasPlace (p : Pool) : Bool := p.running.length < p.width

/-- The pool has stopped. -/
def isOver (p : Pool) : Bool := !p.stage.isLooking && p.running.isEmpty

/-- The message with a number, if it is being worked on. -/
def underWay? (p : Pool) (number : Nat) : Option Job := p.running.find? (·.number == number)

/-- The message with a number loses its place. -/
def vacate (p : Pool) (number : Nat) : Pool :=
  { p with running := p.running.eraseP (·.number == number) }

/-- A message comes. -/
def arrive (p : Pool) (message : Bytes) : Option Pool :=
  if p.isClosed || p.isOver then none
  else
    let j : Job := ⟨p.came.length, message⟩
    some { p with came := p.came ++ [j], queued := p.queued ++ [j] }

/-- The oldest message leaves the queue. -/
def take (p : Pool) : Option Pool :=
  if p.isCancelled then none
  else match p.stage, p.queued with
    | .looking, j :: queued => some { p with queued, stage := .holding j }
    | _, _ => none

/-- Work on the message that has left the queue begins. -/
def start (p : Pool) : Option Pool :=
  if p.isCancelled || !p.hasPlace then none
  else match p.stage with
    | .holding j => some { p with
        stage := .looking, running := p.running ++ [j], begun := p.begun ++ [j] }
    | _ => none

/-- The pool stops looking for messages. The token comes before the queue. -/
def leave (p : Pool) : Option Pool :=
  if !p.stage.isLooking then none
  else if p.isCancelled then
    some { p with stage := .dropping, dropped := p.dropped ++ p.stage.held }
  else if p.isClosed && p.queued.isEmpty && p.stage.held.isEmpty then
    some { p with stage := .draining }
  else none

/-- Work on a message comes to its end. -/
def finish (p : Pool) (number : Nat) : Option Pool :=
  (p.underWay? number).map fun j => { p.vacate number with finished := p.finished ++ [j] }

/-- Work on a message is given up. -/
def drop (p : Pool) (number : Nat) : Option Pool :=
  if p.stage = .dropping then
    (p.underWay? number).map fun j => { p.vacate number with dropped := p.dropped ++ [j] }
  else none

/-- What a thing that happens does; none if it cannot happen. -/
def step? (p : Pool) : Event → Option Pool
  | .arrive message => p.arrive message
  | .close => some { p with isClosed := true }
  | .cancel => some { p with isCancelled := true }
  | .take => p.take
  | .start => p.start
  | .leave => p.leave
  | .finish number => p.finish number
  | .drop number => p.drop number

end Pool

end Sluice
