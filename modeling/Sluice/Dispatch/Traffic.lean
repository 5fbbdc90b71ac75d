import Sluice.Dispatch.Invocation

/-!
# Traffic

Any number of invocations share a store, a table and a queue. At the other end of the queue a
consumer takes messages out, from some tick on, and answers each of them after some ticks, as often
as it likes. A sweeper may sweep the table.

* `Traffic` is where everything stands;
* `Traffic.agenda` is what there is to do, and when;
* `Traffic.perform` does one thing;
* `Traffic.step?` does what is due first. Of things due at one tick, answers come before the
  sweeper, the sweeper before the invocations in their order, and these before the consumer.
-/

namespace Sluice

/-- What a consumer sends back for a message. -/
structure Answering where
  /-- The number of the answer among all. -/
  number : Nat
  /-- The ticks after which it arrives. -/
  after : Nat
  /-- The answer. -/
  response : Response

/-- The consumer of a queue. -/
structure Consumer where
  /-- The tick at which it comes. -/
  start : Tick
  /-- What it sends back for a request. -/
  answers : Request → List Answering

/-- An answer on its way. -/
structure Delivery where
  /-- The number of the answer among all. -/
  number : Nat
  /-- The id that it is for. -/
  id : Uuid
  /-- The answer. -/
  response : Response
  deriving DecidableEq, Repr

/-- Where everything stands. -/
structure Traffic (σ τ : Type) where
  /-- The tick. -/
  now : Tick
  /-- The invocations. -/
  invocations : List Invocation
  /-- What they share. -/
  shared : Shared σ τ
  /-- The answers on their way. -/
  deliveries : Agenda Delivery
  /-- The sweeper. -/
  sweeper : Option Sweeper
  /-- What the consumer has taken out, the last one first. -/
  taken : List (Tick × Request)
  /-- What has become of the answers, the last one first. -/
  resolved : List (Tick × Nat × Resolution)

/-- Something to do. -/
inductive Errand where
  /-- An answer arrives. -/
  | deliver (place : Nat) (x : Delivery)
  /-- The sweeper sweeps. -/
  | sweep (w : Sweeper)
  /-- An invocation is dropped. -/
  | abort (number : Nat)
  /-- An invocation goes on. -/
  | turn (number : Nat)
  /-- The consumer takes a message out. -/
  | consume
  deriving DecidableEq, Repr

namespace Traffic

variable {σ τ : Type}

/-- Invocations that have not begun. A sweeper without an interval does not run. -/
def ofPlans (plans : List Plan) (state : σ) (line : τ) (sweeper : Option Sweeper) :
    Traffic σ τ :=
  ⟨0, plans.map .ofPlan, ⟨state, line, .empty⟩, [], sweeper.filter (0 < ·.interval), [], []⟩

/-! ### What there is to do -/

/-- Answers that arrive. -/
def arrivals (t : Traffic σ τ) : Agenda Errand :=
  t.deliveries.zipIdx.map fun ((tick, x), place) => (tick, .deliver place x)

/-- Invocations that go on or are dropped. -/
def business (d : Dispatcher σ τ) (t : Traffic σ τ) : Agenda Errand :=
  t.invocations.zipIdx.flatMap fun (i, n) =>
    (i.abortDue?.map fun tick => (tick, Errand.abort n)).toList ++
      ((i.due? d n t.now t.shared).map fun tick => (tick, Errand.turn n)).toList

/-- A message that the consumer can take. -/
def supply (d : Dispatcher σ τ) (k : Consumer) (t : Traffic σ τ) : Agenda Errand :=
  if (d.queue.receive t.shared.line).isSome then [(k.start, .consume)] else []

/-- The next sweep. -/
def sweeps (t : Traffic σ τ) : Agenda Errand :=
  (t.sweeper.map fun w => (Tick.atOrAfter w.next, Errand.sweep w)).toList

/-- Everything there is to do. Nothing is due in the past, and a sweeper by itself is no reason to
go on. -/
def agenda (d : Dispatcher σ τ) (k : Consumer) (t : Traffic σ τ) : Agenda Errand :=
  let before := t.arrivals
  let after := t.business d ++ t.supply d k
  (if before.isEmpty && after.isEmpty then [] else before ++ t.sweeps ++ after).map fun e =>
    (max t.now e.1, e.2)

/-! ### Doing it -/

/-- An answer arrives. -/
def deliver (t : Traffic σ τ) (place : Nat) (x : Delivery) : Traffic σ τ :=
  let (r, board) := t.shared.board.resolve x.id x.response
  { t with
    shared := { t.shared with board }
    deliveries := t.deliveries.eraseIdx place
    resolved := (t.now, x.number, r) :: t.resolved }

/-- The sweeper sweeps, which may be later than planned. -/
def sweep (t : Traffic σ τ) (w : Sweeper) : Traffic σ τ :=
  { t with
    shared := { t.shared with board := (t.shared.board.sweep (Tick.instant t.now)).2 }
    sweeper := some { w with next := w.next + w.interval } }

/-- Something happens to one invocation. -/
def act (t : Traffic σ τ) (number : Nat)
    (f : Invocation → Shared σ τ → Invocation × Shared σ τ) : Traffic σ τ :=
  match t.invocations[number]? with
  | none => t
  | some i =>
    let (i, shared) := f i t.shared
    { t with invocations := t.invocations.set number i, shared }

/-- The answers to a request that has been taken out. -/
def answered (t : Traffic σ τ) (k : Consumer) (r : Request) : Agenda Delivery :=
  (k.answers r).map fun a => (t.now + a.after, ⟨a.number, r.id, a.response⟩)

/-- The consumer takes a message out and answers it, unless it cannot be read. -/
def consume (d : Dispatcher σ τ) (k : Consumer) (t : Traffic σ τ) : Traffic σ τ :=
  match d.queue.receive t.shared.line with
  | none => t
  | some (bytes, line) =>
    let t := { t with shared := { t.shared with line } }
    match Request.ofUtf8? bytes with
    | none => t
    | some r =>
      { t with
        deliveries := t.deliveries ++ t.answered k r
        taken := (t.now, r) :: t.taken }

/-- Does something. -/
def perform (d : Dispatcher σ τ) (k : Consumer) (t : Traffic σ τ) : Errand → Traffic σ τ
  | .deliver place x => t.deliver place x
  | .sweep w => t.sweep w
  | .abort n => t.act n fun i => i.abort d n
  | .turn n => t.act n fun i => i.turn d n t.now
  | .consume => t.consume d k

/-- Does what is due first; none if nothing ever is. -/
def step? (d : Dispatcher σ τ) (k : Consumer) (t : Traffic σ τ) : Option (Traffic σ τ) :=
  (t.agenda d k).first?.map fun (tick, e) => { t with now := tick }.perform d k e

/-- Does everything, `fuel` things at most. -/
def run (d : Dispatcher σ τ) (k : Consumer) : Nat → Traffic σ τ → Traffic σ τ
  | 0, t => t
  | fuel + 1, t =>
    match t.step? d k with
    | some t => run d k fuel t
    | none => t

end Traffic

end Sluice
