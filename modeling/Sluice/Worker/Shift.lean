import Sluice.Worker.Basic
import Sluice.Worker.Pool

/-!
# Shifts of a worker

A worker at a queue works on several messages at once: while one request is being executed another
one's response is on its way. A shift is such a worker from the opening of the queue on.

* `Shift.open?` is a shift to which nothing has come yet;
* `Shift.Event` is something that can happen: what happens to the pool, the end of an execution, and
  the end of a sending;
* `Shift.step?` is what it does, and none if it cannot happen; `Shift.run` lets several things
  happen in turn, leaving out those that cannot.

The store is told what the remote reported as soon as the execution has ended. A message that is no
request comes to its end with an error in place of the execution. A message gives its place free
only once its response has been sent or could not be sent.
-/

namespace Sluice

/-- A response that has not been sent yet. -/
structure Unsent where
  /-- The message. -/
  job : Job
  /-- Where the response goes. -/
  address : String
  /-- The response. -/
  response : Response

/-- What has become of a message. -/
structure Ending where
  /-- The message. -/
  job : Job
  /-- The response, or why there is none or it has not been sent. -/
  result : Except Failure Response
  /-- What has arrived at the return address. -/
  arrived : Bytes

/-- A worker at a queue. -/
structure Shift (σ : Type) where
  /-- The messages. -/
  pool : Pool
  /-- Messages that have been read and, if they are requests, executed; the first one first. -/
  handled : List Job
  /-- Responses on their way. -/
  unsent : List Unsent
  /-- What has become of the messages that have been worked off, the first one first. -/
  outcomes : List Ending
  /-- The buckets. -/
  state : σ
  /-- What has been counted. -/
  tally : Tally

namespace Shift

variable {σ : Type}

/-- Something that can happen. -/
inductive Event where
  /-- Something that happens to the pool, except that work comes to its end. -/
  | pool (event : Pool.Event)
  /-- The execution of a request ends, or a message turns out to be no request. -/
  | handle (number : Nat) (now : Timestamp)
  /-- The sending of a response ends. -/
  | send (number : Nat) (net : Network)

/-- A shift to which no message has come; none for a worker that is too wide for a pool. -/
def open? (w : Worker σ) (state : σ) (tally : Tally) : Option (Shift σ) :=
  (Pool.ofWidth? w.width).map fun p => ⟨p, [], [], [], state, tally⟩

/-- Work on a message has come to its end. -/
def conclude (s : Shift σ) (j : Job) (result : Except Failure Response) (arrived : Bytes) :
    Option (Shift σ) :=
  (s.pool.finish j.number).map fun p =>
    { s with
      pool := p
      unsent := s.unsent.filter (·.job.number != j.number)
      outcomes := s.outcomes ++ [⟨j, result, arrived⟩] }

/-- A message has been read and executed. -/
def handle (w : Worker σ) (s : Shift σ) (number : Nat) (now : Timestamp) : Option (Shift σ) :=
  match s.pool.underWay? number with
  | none => none
  | some j =>
    if j ∈ s.handled then none
    else
      let s := { s with handled := s.handled ++ [j] }
      match Request.ofUtf8? j.message with
      | none => s.conclude j (.error (.serialization "not a request")) []
      | some r =>
        let x := w.execute r
        let (state, tally) := w.feedBack now r.bucketId (x.snapshot? now) s.state s.tally
        some { s with
          unsent := s.unsent ++ [⟨j, r.returnAddress, x.response r now⟩], state, tally }

/-- A response has been sent or could not be sent. -/
def send (w : Worker σ) (s : Shift σ) (number : Nat) (net : Network) : Option (Shift σ) :=
  match s.unsent.find? (·.job.number == number) with
  | none => none
  | some u =>
    let (sent, arrived) := w.courier.send net u.address [u.response]
    s.conclude u.job (sent.map fun _ => u.response) arrived

/-- What a thing that happens does; none if it cannot happen. -/
def step? (w : Worker σ) (s : Shift σ) : Event → Option (Shift σ)
  | .pool (.finish _) => none
  | .pool (.drop number) => (s.pool.drop number).map fun p =>
    { s with pool := p, unsent := s.unsent.filter (·.job.number != number) }
  | .pool e => (s.pool.step? e).map fun p => { s with pool := p }
  | .handle number now => s.handle w number now
  | .send number net => s.send w number net

/-- Several things happen in turn (`run`); those that cannot are left out. -/
def run (w : Worker σ) (s : Shift σ) (es : List Event) : Shift σ :=
  es.foldl (fun s e => (s.step? w e).getD s) s

end Shift

end Sluice
