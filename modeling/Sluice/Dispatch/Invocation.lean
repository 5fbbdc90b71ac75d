import Sluice.Dispatch.Stage
import Sluice.Gate.Basic
import Sluice.Pending.Board
import Sluice.Queue.Basic
import Sluice.Quota.Target

/-!
# One invocation

An invocation derives its bucket, passes the gate, registers its id, hands its message to the queue
and waits for what comes first: its token, the answer, or its deadline. The id leaves the table
however the invocation ends. An invocation may also break down before it has registered its id; then
nobody hears of it again.

* `Dispatcher` holds what all invocations have in common and never changes, `Shared` what they
  change;
* `Invocation.turn` is what an invocation does when there is something to do for it, up to the next
  point where it has to wait;
* `Invocation.due?` is when that is;
* `Invocation.abort` drops an invocation where it stands.
-/

namespace Sluice

/-- What somebody wants to invoke, and when. -/
structure Plan where
  /-- The tick at which the invocation begins. -/
  start : Tick
  /-- The id of the request. -/
  id : Uuid
  /-- The call. -/
  call : Call
  /-- How long the invocation may take; none for the usual time. -/
  timeout : Option Duration
  /-- The tick at which the token fires. -/
  cancel : Option Tick
  /-- The tick at which the invocation is dropped. -/
  abort : Option Tick

/-- What all invocations have in common. -/
structure Dispatcher (σ τ : Type) where
  /-- The gate. -/
  gate : Gate
  /-- The store. -/
  store : Store σ
  /-- The ticks that the store takes to answer. -/
  latency : Nat
  /-- The queue. -/
  queue : Queue τ
  /-- How buckets are derived from calls. -/
  routes : Route
  /-- Where answers are to go. -/
  returnAddress : String
  /-- How long an invocation may take that does not say. -/
  timeout : Duration
  /-- The wall clock at the start of the run. -/
  start : Timestamp
  /-- The last instant that the clock of the run can tell. -/
  horizon : Instant := Instant.last

/-- How long an invocation may take unless somebody says otherwise. -/
def Dispatcher.standardTimeout : Duration := .ofMillis 30000

/-- What all invocations change. -/
structure Shared (σ τ : Type) where
  /-- The buckets. -/
  state : σ
  /-- The queue. -/
  line : τ
  /-- The pending requests and what has been counted. -/
  board : Board

namespace Shared

variable {σ τ : Type}

/-- What has been counted. -/
def tally (s : Shared σ τ) : Tally := s.board.tally

/-- With another tally. -/
def withTally (s : Shared σ τ) (t : Tally) : Shared σ τ :=
  { s with board := { s.board with tally := t } }

end Shared

/-- Where an invocation stands. -/
inductive Phase where
  /-- It has not begun. -/
  | coming
  /-- It waits at the gate until its deadline. -/
  | admission (deadline : Instant) (v : Visit) (w : Waiting)
  /-- It waits for room in the queue. -/
  | handing (deadline : Instant) (ticket : Nat) (r : Request)
  /-- It waits for its answer. -/
  | awaiting (deadline : Instant) (ticket : Nat)
  /-- It ended at a tick. -/
  | ended (at' : Tick) (result : Except Failure Reply)
  /-- It has been dropped. -/
  | dropped
  /-- It broke down: its deadline was beyond the clock, or there was no sleep to choose. -/
  | broken

/-- An invocation. -/
structure Invocation where
  /-- What is wanted. -/
  plan : Plan
  /-- Its stages. -/
  course : Course
  /-- Where it stands. -/
  phase : Phase

namespace Invocation

variable {σ τ : Type}

/-- An invocation that has not begun. -/
def ofPlan (p : Plan) : Invocation := ⟨p, .begin p.id, .coming⟩

/-- The token has fired. -/
def isCancelled (i : Invocation) (now : Tick) : Bool := i.plan.cancel.any (· ≤ now)

/-- How long an invocation may take. -/
def timeout (d : Dispatcher σ τ) (i : Invocation) : Duration := i.plan.timeout.getD d.timeout

/-- The failure of an invocation whose deadline has passed. -/
def lateness (d : Dispatcher σ τ) (i : Invocation) : Failure :=
  .timedOut i.plan.id (i.timeout d).millis64

/-- The seconds since an invocation began. -/
def seconds (i : Invocation) (now : Tick) : Float :=
  (Duration.clamp ((now - i.plan.start) * 1000000)).toFloat

/-- Ends in a stage with a result; both are counted. -/
def finish (i : Invocation) (now : Tick) (stage : Stage) (result : Except Failure Reply)
    (s : Shared σ τ) : Invocation × Shared σ τ :=
  let course := i.course.moved stage
  (⟨i.plan, course, .ended now result⟩,
    s.withTally (s.tally.finish course.stage.label (i.seconds now)))

/-- Ends with a failure after the id has left the table. -/
def leave (i : Invocation) (now : Tick) (stage : Stage) (result : Except Failure Reply)
    (s : Shared σ τ) : Invocation × Shared σ τ :=
  i.finish now stage result { s with board := (s.board.deregister i.plan.id).2 }

/-- What a settlement means for an invocation. -/
def conclude (d : Dispatcher σ τ) (i : Invocation) : Settlement → Stage × Except Failure Reply
  | .completed r => (.completed, r.outcome)
  | .expired => (.timedOut, .error (i.lateness d))
  | .abandoned => (.cancelled, .error .cancelled)

/-- Ends as a settlement says. -/
def settle (d : Dispatcher σ τ) (i : Invocation) (now : Tick) (m : Settlement)
    (s : Shared σ τ) : Invocation × Shared σ τ :=
  let (stage, result) := i.conclude d m
  i.leave now stage result s

/-- Looks for what has come first: the token, the answer, the deadline. -/
def look (d : Dispatcher σ τ) (i : Invocation) (now : Tick) (deadline : Instant) (ticket : Nat)
    (s : Shared σ τ) : Invocation × Shared σ τ :=
  if i.isCancelled now then i.settle d now .abandoned s
  else match s.board.poll ticket with
    | (some m, board) => i.settle d now m { s with board }
    | (none, _) =>
      if deadline ≤ Tick.instant now then
        i.settle d now .expired { s with board := (s.board.expire i.plan.id).2 }
      else ({ i with phase := .awaiting deadline ticket }, s)

/-- Hands the message to the queue. -/
def hand (d : Dispatcher σ τ) (number : Nat) (i : Invocation) (now : Tick) (deadline : Instant)
    (ticket : Nat) (r : Request) (s : Shared σ τ) : Invocation × Shared σ τ :=
  match d.queue.send number r s.line s.tally with
  | (none, line, tally) =>
    ({ i with phase := .handing deadline ticket r }, { s.withTally tally with line })
  | (some (.error f), line, tally) =>
    i.leave now .sendFailed (.error f) { s.withTally tally with line }
  | (some (.ok ()), line, tally) =>
    look d { i with course := i.course.moved .sent } now deadline ticket
      { s.withTally tally with line }

/-- Registers the id and hands the message to the queue. -/
def relay (d : Dispatcher σ τ) (number : Nat) (i : Invocation) (now : Tick) (deadline : Instant)
    (bucket : String) (s : Shared σ τ) : Invocation × Shared σ τ :=
  match s.board.register i.plan.id deadline with
  | (.error f, board) => i.finish now .sendFailed (.error f) { s with board }
  | (.ok ticket, board) =>
    let r := Request.ofCall i.plan.id bucket i.plan.call d.returnAddress (Tick.clock d.start now)
    i.hand d number now deadline ticket r { s with board }

/-- Goes on from the gate. -/
def proceed (d : Dispatcher σ τ) (number : Nat) (i : Invocation) (now : Tick) (deadline : Instant)
    (n : Gate.Next) (s : Shared σ τ) : Invocation × Shared σ τ :=
  match n with
  | .waits v w => ({ i with phase := .admission deadline v w }, s)
  | .ends v (.granted _) => i.relay d number now deadline v.bucket s
  | .ends _ .late => i.finish now .timedOut (.error (i.lateness d)) s
  | .ends _ (.failed f) => i.finish now (.ofFailure f) (.error f) s
  | .breaks _ => ({ i with phase := .broken }, s)

/-- Asks at the gate. -/
def ask (d : Dispatcher σ τ) (number : Nat) (i : Invocation) (now : Tick) (deadline : Instant)
    (v : Visit) (s : Shared σ τ) : Invocation × Shared σ τ :=
  let (n, state, tally) := d.gate.enter d.store (Tick.clock d.start now) d.latency v
    (i.isCancelled now) (Tick.instant now) s.state s.tally
  i.proceed d number now deadline n { s.withTally tally with state }

/-- Listens to the store's answer. -/
def hear (d : Dispatcher σ τ) (number : Nat) (i : Invocation) (now : Tick) (deadline : Instant)
    (v : Visit) (o : Outcome) (s : Shared σ τ) : Invocation × Shared σ τ :=
  let (n, tally) := d.gate.heed v (Tick.instant now) o s.tally
  i.proceed d number now deadline n (s.withTally tally)

/-- Goes on at the gate unless the token or the deadline came first. An answer of the store that
comes later than either is lost, and so is the unit that it may have granted. -/
def attend (d : Dispatcher σ τ) (i : Invocation) (now : Tick) (deadline : Instant)
    (go : Shared σ τ → Invocation × Shared σ τ) (s : Shared σ τ) : Invocation × Shared σ τ :=
  if i.isCancelled now then i.finish now .cancelled (.error .cancelled) s
  else if deadline ≤ Tick.instant now then i.finish now .timedOut (.error (i.lateness d)) s
  else go s

/-- The bucket of a call: the one it names, or the one that its route has. -/
def bucket (d : Dispatcher σ τ) (c : Call) : Except Failure String :=
  match c.bucketId with
  | some b => .ok b
  | none => d.routes.bucketOf c.method c.targetUrl

/-- Begins (`invoke`): derives the bucket and goes to the gate. Before that it breaks down if the
clock cannot tell its deadline. -/
def start (d : Dispatcher σ τ) (number : Nat) (i : Invocation) (now : Tick)
    (s : Shared σ τ) : Invocation × Shared σ τ :=
  let deadline := Tick.instant now + (i.timeout d).nanos
  if d.horizon < deadline then ({ i with phase := .broken }, s)
  else match bucket d i.plan.call with
    | .error f => i.finish now .sendFailed (.error f) s
    | .ok b =>
      i.attend d now deadline (i.ask d number now deadline ⟨number, b, some deadline, 0⟩) s

/-- What an invocation does at a tick (`drive`). -/
def turn (d : Dispatcher σ τ) (number : Nat) (now : Tick) (i : Invocation)
    (s : Shared σ τ) : Invocation × Shared σ τ :=
  match i.phase with
  | .coming => i.start d number now s
  | .admission deadline v (.answer t o) =>
    i.attend d now deadline
      (fun s => if t ≤ Tick.instant now then i.hear d number now deadline v o s else (i, s)) s
  | .admission deadline v (.wake t) =>
    i.attend d now deadline
      (fun s => if t ≤ now then i.ask d number now deadline v s else (i, s)) s
  | .handing deadline ticket r => i.hand d number now deadline ticket r s
  | .awaiting deadline ticket => i.look d now deadline ticket s
  | .ended .. | .dropped | .broken => (i, s)

/-- Drops an invocation where it stands. -/
def abort (d : Dispatcher σ τ) (number : Nat) (i : Invocation)
    (s : Shared σ τ) : Invocation × Shared σ τ :=
  match i.phase with
  | .coming | .admission .. => ({ i with phase := .dropped }, s)
  | .handing .. =>
    ({ i with phase := .dropped },
      { s with line := d.queue.withdraw number s.line,
               board := (s.board.deregister i.plan.id).2 })
  | .awaiting .. =>
    ({ i with phase := .dropped }, { s with board := (s.board.deregister i.plan.id).2 })
  | .ended .. | .dropped | .broken => (i, s)

/-! ### When there is something to do -/

/-- The first of a tick and the tick of the token. -/
def orCancel (i : Invocation) (t : Tick) : Tick := i.plan.cancel.elim t (min t)

/-- The tick at which there is something to do for an invocation; none if only somebody else can
bring it on. -/
def due? (d : Dispatcher σ τ) (number : Nat) (now : Tick) (i : Invocation) (s : Shared σ τ) :
    Option Tick :=
  match i.phase with
  | .coming => some i.plan.start
  | .admission deadline _ (.answer t _) =>
    some (i.orCancel (min (Tick.atOrAfter t) (Tick.atOrAfter deadline)))
  | .admission deadline _ (.wake t) => some (i.orCancel (min t (Tick.atOrAfter deadline)))
  | .handing .. => if d.queue.isReady number s.line then some now else none
  | .awaiting deadline ticket =>
    some (if s.board.table.box ticket = .waiting then i.orCancel (Tick.atOrAfter deadline) else now)
  | .ended .. | .dropped | .broken => none

/-- The tick at which an invocation is to be dropped. -/
def abortDue? (i : Invocation) : Option Tick :=
  match i.phase with
  | .ended .. | .dropped | .broken => none
  | _ => i.plan.abort

/-- An invocation that needs nothing any more. -/
def isOver (i : Invocation) : Bool :=
  match i.phase with
  | .ended .. | .dropped | .broken => true
  | _ => false

end Invocation

end Sluice
