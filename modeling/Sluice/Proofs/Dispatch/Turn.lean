import Sluice.Dispatch.Invocation
import Sluice.Proofs.Pending.Entries
import Sluice.Proofs.Quota.Backoff

/-!
# What a turn of an invocation comes to

A turn goes from one waiting point of an invocation to the next one, or to its end. `Turn` lists all
that it can come to: where the invocation stands then, and what has become of the store, the queue
and the table. What has been counted is left out.

* `Plan.deadline`, `Plan.limit`, `Plan.isCancelled` : what a plan says about its end;
* `Invocation.grant?` : the visit that the gate ends with a grant in a turn;
* `Look` : what an invocation finds that waits for its answer;
* `Hand` : what comes of handing a message to the queue;
* `Invocation.turn_view`, `Invocation.abort_view` : a turn is one of these, and so is the end of an
  invocation that is dropped.
-/

namespace Sluice

variable {σ τ : Type}

/-! ### Plans -/

namespace Plan

/-- How long an invocation may take. -/
def limit (d : Dispatcher σ τ) (p : Plan) : Duration := p.timeout.getD d.timeout

/-- The instant at which an invocation that begins in time has taken too long. -/
def deadline (d : Dispatcher σ τ) (p : Plan) : Instant :=
  Tick.instant p.start + (p.limit d).nanos

/-- The failure of an invocation that has taken too long. -/
def lateness (d : Dispatcher σ τ) (p : Plan) : Failure := .timedOut p.id (p.limit d).millis64

/-- The token has fired. -/
def isCancelled (p : Plan) (now : Tick) : Bool := p.cancel.any (· ≤ now)

/-- What a settlement means for the caller. -/
def result (d : Dispatcher σ τ) (p : Plan) : Settlement → Except Failure Reply
  | .completed r => r.outcome
  | .expired => .error (p.lateness d)
  | .abandoned => .error .cancelled

end Plan

/-- The ticket of an invocation that is registered. -/
def Phase.ticket? : Phase → Option Nat
  | .handing _ ticket _ => some ticket
  | .awaiting _ ticket => some ticket
  | _ => none

/-- The visit that has ended with a grant. -/
def Gate.Next.granted? : Gate.Next → Option Visit
  | .ends v (.granted _) => some v
  | _ => none

/-! ### Views -/

/-- An invocation and what it shares, without what has been counted. -/
structure View (σ τ : Type) where
  /-- Where the invocation stands. -/
  phase : Phase
  /-- The buckets. -/
  state : σ
  /-- The queue. -/
  line : τ
  /-- The pending requests. -/
  table : Table

/-- What an invocation finds that looks for what has come first: the token, the answer, the
deadline. -/
inductive Look (d : Dispatcher σ τ) (p : Plan) (now : Tick) (deadline : Instant) (ticket : Nat)
    (v : View σ τ) : View σ τ → Prop where
  | cancelled (hc : p.isCancelled now = true) :
    Look d p now deadline ticket v { v with
      phase := .ended now (.error .cancelled), table := (v.table.deregister p.id).2 }
  | settled {s : Settlement} {t : Table} (hc : p.isCancelled now = false)
    (hpoll : v.table.poll ticket = (some s, t)) :
    Look d p now deadline ticket v { v with
      phase := .ended now (p.result d s), table := (t.deregister p.id).2 }
  | expired (hc : p.isCancelled now = false) (hpoll : (v.table.poll ticket).1 = none)
    (hd : deadline ≤ Tick.instant now) :
    Look d p now deadline ticket v { v with
      phase := .ended now (.error (p.lateness d))
      table := ((v.table.expire p.id).2.deregister p.id).2 }
  | waits (hc : p.isCancelled now = false) (hpoll : (v.table.poll ticket).1 = none)
    (hd : Tick.instant now < deadline) :
    Look d p now deadline ticket v { v with phase := .awaiting deadline ticket }

/-- What comes of handing a message to the queue. -/
inductive Hand (d : Dispatcher σ τ) (number : Nat) (p : Plan) (now : Tick) (deadline : Instant)
    (ticket : Nat) (r : Request) (v : View σ τ) : View σ τ → Prop where
  | later {line : τ} (hoffer : d.queue.offer number r.toUtf8 v.line = (.later, line)) :
    Hand d number p now deadline ticket r v { v with phase := .handing deadline ticket r, line }
  | refused {reason : String} {line : τ}
    (hoffer : d.queue.offer number r.toUtf8 v.line = (.refused reason, line)) :
    Hand d number p now deadline ticket r v { v with
      phase := .ended now (.error (.relayUnavailable reason)), line
      table := (v.table.deregister p.id).2 }
  | accepted {line : τ} {v' : View σ τ}
    (hoffer : d.queue.offer number r.toUtf8 v.line = (.accepted, line))
    (look : Look d p now deadline ticket { v with line } v') :
    Hand d number p now deadline ticket r v v'

section

variable {d : Dispatcher σ τ} {number ticket : Nat} {p : Plan} {now : Tick} {deadline : Instant}
  {r : Request} {v v' : View σ τ}

theorem Look.line_eq (h : Look d p now deadline ticket v v') : v'.line = v.line := by
  cases h <;> rfl

theorem Hand.line_eq (h : Hand d number p now deadline ticket r v v') :
    v'.line = (d.queue.offer number r.toUtf8 v.line).2 := by
  cases h with
  | later hoffer => rw [hoffer]
  | refused hoffer => rw [hoffer]
  | accepted hoffer look => rw [look.line_eq, hoffer]

end

namespace Invocation

/-- An invocation and what it shares. -/
def view (x : Invocation × Shared σ τ) : View σ τ :=
  ⟨x.1.phase, x.2.state, x.2.line, x.2.board.table⟩

variable {d : Dispatcher σ τ} {number : Nat} {i : Invocation} {now : Tick} {deadline : Instant}
  {s : Shared σ τ} {v : Visit}

theorem view_leave (stage : Stage) (result : Except Failure Reply) :
    view (i.leave now stage result s) = { view (i, s) with
      phase := .ended now result, table := (s.board.table.deregister i.plan.id).2 } := by
  rw [← Board.table_deregister]
  rfl

theorem result_conclude (m : Settlement) : (i.conclude d m).2 = i.plan.result d m := by
  cases m <;> rfl

theorem view_settle (m : Settlement) : view (i.settle d now m s) = { view (i, s) with
    phase := .ended now (i.plan.result d m), table := (s.board.table.deregister i.plan.id).2 } := by
  rw [← result_conclude]
  exact view_leave _ _

theorem look_view (now : Tick) (deadline : Instant) (ticket : Nat) :
    (i.look d now deadline ticket s).1.plan = i.plan ∧
      Look d i.plan now deadline ticket (view (i, s)) (view (i.look d now deadline ticket s)) := by
  unfold look
  by_cases hc : i.isCancelled now = true
  · rw [if_pos hc]
    refine ⟨rfl, ?_⟩
    rw [view_settle]
    exact .cancelled hc
  · rw [if_neg hc]
    have hc : i.plan.isCancelled now = false := Bool.eq_false_iff.2 hc
    obtain ⟨m, t, hpoll⟩ : ∃ m t, s.board.table.poll ticket = (m, t) := ⟨_, _, rfl⟩
    rw [Board.poll, hpoll]
    cases m with
    | some m =>
      refine ⟨rfl, ?_⟩
      dsimp only
      rw [view_settle]
      exact .settled hc hpoll
    | none =>
      dsimp only
      split_ifs with hd
      · refine ⟨rfl, ?_⟩
        rw [view_settle, Board.table_expire]
        exact .expired hc (congrArg Prod.fst hpoll) hd
      · exact ⟨rfl, .waits hc (congrArg Prod.fst hpoll) (Int.not_le.1 hd)⟩

theorem hand_view (number : Nat) (now : Tick) (deadline : Instant) (ticket : Nat) (r : Request) :
    (i.hand d number now deadline ticket r s).1.plan = i.plan ∧
      Hand d number i.plan now deadline ticket r (view (i, s))
        (view (i.hand d number now deadline ticket r s)) := by
  unfold hand Queue.send
  obtain ⟨o, line, hoffer⟩ : ∃ o line, d.queue.offer number r.toUtf8 s.line = (o, line) :=
    ⟨_, _, rfl⟩
  rw [hoffer]
  cases o with
  | later => exact ⟨rfl, .later hoffer⟩
  | refused reason =>
    refine ⟨rfl, ?_⟩
    dsimp only
    rw [view_leave]
    exact .refused hoffer
  | accepted =>
    have hlook := look_view (d := d) (i := { i with course := i.course.moved .sent })
      (s := { s.withTally s.tally with line }) now deadline ticket
    exact ⟨hlook.1, .accepted hoffer hlook.2⟩

/-! ### At the gate -/

/-- The visit that the gate ends with a grant in a turn, if the turn gets that far. -/
def grant? (d : Dispatcher σ τ) (number : Nat) (now : Tick) (i : Invocation) (s : Shared σ τ) :
    Option Visit :=
  let asked (v : Visit) : Gate.Next :=
    (d.gate.enter d.store (Tick.clock d.start now) d.latency v (i.isCancelled now)
      (Tick.instant now) s.state s.tally).1
  let said (deadline : Instant) (n : Gate.Next) : Option Visit :=
    if i.plan.isCancelled now ∨ deadline ≤ Tick.instant now then none
    else n.granted?
  match i.phase with
  | .coming =>
    let deadline := Tick.instant now + (i.plan.limit d).nanos
    if d.horizon < deadline then none
    else match bucket d i.plan.call with
      | .ok b => said deadline (asked ⟨number, b, some deadline, 0⟩)
      | .error _ => none
  | .admission deadline v (.wake t) => if t ≤ now then said deadline (asked v) else none
  | .admission deadline v (.answer t o) =>
    if t ≤ Tick.instant now then said deadline (d.gate.heed v (Tick.instant now) o s.tally).1
    else none
  | _ => none

/-- An invocation has not passed the gate, and will not wait beyond a deadline. -/
def AtGate (d : Dispatcher σ τ) (i : Invocation) (now : Tick) (deadline : Instant) : Prop :=
  match i.phase with
  | .coming => deadline = Tick.instant now + (i.plan.limit d).nanos ∧ deadline ≤ d.horizon ∧
      ∃ b, bucket d i.plan.call = .ok b
  | .admission deadline' _ _ => deadline = deadline'
  | _ => False

/-- Nothing but the gate or the clock breaks an invocation down: it begins and its deadline is beyond
the clock, or it is at the gate and a denial leaves no sleep to choose. -/
def BreaksDown (d : Dispatcher σ τ) (i : Invocation) (now : Tick) : Prop :=
  i.phase = .coming ∧ d.horizon < Tick.instant now + (i.plan.limit d).nanos ∨
    (∃ deadline, i.AtGate d now deadline) ∧ ¬ d.gate.backoff.IsPossible

/-- At the gate the visit of an invocation has the deadline of the invocation. -/
def Visits (i : Invocation) : Prop :=
  ∀ deadline v w, i.phase = .admission deadline v w → v.deadline = some deadline

/-- **All that a turn can come to.** -/
inductive Turn (d : Dispatcher σ τ) (number : Nat) (now : Tick) (i : Invocation) (s : Shared σ τ) :
    View σ τ → Prop where
  | idle (h : i.isOver = true) : Turn d number now i s (view (i, s))
  | broken {state : σ} (hbreak : i.BreaksDown d now) (hgrant : i.grant? d number now s = none) :
    Turn d number now i s { view (i, s) with phase := .broken, state }
  | misdirected {f : Failure} (hp : i.phase = .coming)
    (hclock : Tick.instant now + (i.plan.limit d).nanos ≤ d.horizon)
    (hb : bucket d i.plan.call = .error f) :
    Turn d number now i s { view (i, s) with phase := .ended now (.error f) }
  | cancelled {deadline : Instant} (hg : i.AtGate d now deadline)
    (hc : i.plan.isCancelled now = true) :
    Turn d number now i s { view (i, s) with phase := .ended now (.error .cancelled) }
  | late {deadline : Instant} (hg : i.AtGate d now deadline) (hc : i.plan.isCancelled now = false)
    (hd : deadline ≤ Tick.instant now) :
    Turn d number now i s { view (i, s) with phase := .ended now (.error (i.plan.lateness d)) }
  | failed {deadline : Instant} {f : Failure} {state : σ} {b : String}
    (hg : i.AtGate d now deadline) (hgrant : i.grant? d number now s = none)
    (htake : (d.store.take (Tick.clock d.start now) b 1 s.state).1 = .error f) :
    Turn d number now i s { view (i, s) with phase := .ended now (.error f), state }
  | waits {deadline : Instant} {v : Visit} {w : Waiting} {state : σ}
    (hg : i.AtGate d now deadline) (hc : i.plan.isCancelled now = false)
    (hd : Tick.instant now < deadline) (hv : v.deadline = some deadline)
    (hgrant : i.grant? d number now s = none) :
    Turn d number now i s { view (i, s) with phase := .admission deadline v w, state }
  | duplicate {deadline : Instant} {v : Visit} {e : Entry} {state : σ}
    (hg : i.AtGate d now deadline) (hgrant : i.grant? d number now s = some v)
    (hfind : s.board.table.find? i.plan.id = some e) :
    Turn d number now i s { view (i, s) with
      phase := .ended now (.error (.duplicateId i.plan.id)), state }
  | granted {deadline : Instant} {v : Visit} {state : σ} {v' : View σ τ}
    (hg : i.AtGate d now deadline) (hc : i.plan.isCancelled now = false)
    (hd : Tick.instant now < deadline) (hgrant : i.grant? d number now s = some v)
    (hfind : s.board.table.find? i.plan.id = none)
    (hand : Hand d number i.plan now deadline s.board.table.boxes.length
      (.ofCall i.plan.id v.bucket i.plan.call d.returnAddress (Tick.clock d.start now))
      { view (i, s) with state, table := (s.board.table.register i.plan.id deadline).2 } v') :
    Turn d number now i s v'
  | handing {deadline : Instant} {ticket : Nat} {r : Request} {v' : View σ τ}
    (hp : i.phase = .handing deadline ticket r)
    (hand : Hand d number i.plan now deadline ticket r (view (i, s)) v') :
    Turn d number now i s v'
  | awaiting {deadline : Instant} {ticket : Nat} {v' : View σ τ}
    (hp : i.phase = .awaiting deadline ticket)
    (look : Look d i.plan now deadline ticket (view (i, s)) v') :
    Turn d number now i s v'

/-- What the gate says to an invocation that gets as far as asking. -/
inductive Said (d : Dispatcher σ τ) (number : Nat) (now : Tick) (i : Invocation)
    (s : Shared σ τ) (deadline : Instant) : Gate.Next → Prop where
  | waits {v : Visit} {w : Waiting} (hgrant : i.grant? d number now s = none)
    (hv : v.deadline = some deadline) : Said d number now i s deadline (.waits v w)
  | granted {v : Visit} {n : UInt32} (hgrant : i.grant? d number now s = some v) :
    Said d number now i s deadline (.ends v (.granted n))
  | failed {v : Visit} {f : Failure} {b : String} (hgrant : i.grant? d number now s = none)
    (htake : (d.store.take (Tick.clock d.start now) b 1 s.state).1 = .error f) :
    Said d number now i s deadline (.ends v (.failed f))
  | breaks {v : Visit} (hgrant : i.grant? d number now s = none)
    (hp : ¬ d.gate.backoff.IsPossible) : Said d number now i s deadline (.breaks v)

theorem relay_turn {s' : Shared σ τ} (hline : s'.line = s.line)
    (htable : s'.board.table = s.board.table) (hg : i.AtGate d now deadline)
    (hc : i.plan.isCancelled now = false) (hd : Tick.instant now < deadline)
    (hgrant : i.grant? d number now s = some v) :
    (i.relay d number now deadline v.bucket s').1.plan = i.plan ∧
      Turn d number now i s (view (i.relay d number now deadline v.bucket s')) := by
  obtain ⟨state, line, table, tally⟩ := s'
  dsimp only at hline htable
  subst hline htable
  unfold relay
  dsimp only
  cases hfind : s.board.table.find? i.plan.id with
  | some e =>
    rw [Board.register_of_find? ⟨s.board.table, tally⟩ _ hfind]
    exact ⟨rfl, .duplicate hg hgrant hfind⟩
  | none =>
    obtain ⟨b, hb, htable⟩ :=
      Board.register_of_absent ⟨s.board.table, tally⟩ i.plan.id hfind deadline
    rw [hb]
    have hhand := hand_view (d := d) (i := i) (s := ⟨state, s.line, b⟩) number now deadline
      s.board.table.boxes.length
      (.ofCall i.plan.id v.bucket i.plan.call d.returnAddress (Tick.clock d.start now))
    have hview : view (i, (⟨state, s.line, b⟩ : Shared σ τ)) = { view (i, s) with
        state, table := (s.board.table.register i.plan.id deadline).2 } := by
      rw [← htable]
      rfl
    rw [hview] at hhand
    exact ⟨hhand.1, .granted hg hc hd hgrant hfind hhand.2⟩

theorem proceed_turn {s' : Shared σ τ} {n : Gate.Next} (hline : s'.line = s.line)
    (htable : s'.board.table = s.board.table) (hg : i.AtGate d now deadline)
    (hc : i.plan.isCancelled now = false) (hd : Tick.instant now < deadline)
    (hsaid : Said d number now i s deadline n) :
    (i.proceed d number now deadline n s').1.plan = i.plan ∧
      Turn d number now i s (view (i.proceed d number now deadline n s')) := by
  obtain ⟨state, line, table, tally⟩ := s'
  dsimp only at hline htable
  subst hline htable
  cases hsaid with
  | waits hgrant hv => exact ⟨rfl, .waits hg hc hd hv hgrant⟩
  | granted hgrant => exact relay_turn rfl rfl hg hc hd hgrant
  | failed hgrant htake => exact ⟨rfl, .failed hg hgrant htake⟩
  | breaks hgrant hp => exact ⟨rfl, .broken (Or.inr ⟨⟨deadline, hg⟩, hp⟩) hgrant⟩

/-- What the gate says of the answer of a store. -/
theorem said_heed (hv : v.deadline = some deadline) {o : Outcome} (tally : Tally)
    (hgrant : i.grant? d number now s = (d.gate.heed v (Tick.instant now) o tally).1.granted?) :
    Said d number now i s deadline (d.gate.heed v (Tick.instant now) o tally).1 := by
  cases o with
  | granted n => exact .granted hgrant
  | denied hint =>
    unfold Gate.heed Gate.sleepOn at hgrant ⊢
    dsimp only at hgrant ⊢
    split_ifs at hgrant ⊢ with hp
    · exact .waits hgrant hv
    · exact .breaks hgrant fun hall => hp (hall _ _)

theorem said_enter (hc : i.plan.isCancelled now = false) (hd : Tick.instant now < deadline)
    (hv : v.deadline = some deadline)
    (hgrant : i.grant? d number now s = (d.gate.enter d.store (Tick.clock d.start now)
        d.latency v (i.isCancelled now) (Tick.instant now) s.state s.tally).1.granted?) :
    Said d number now i s deadline (d.gate.enter d.store (Tick.clock d.start now) d.latency v
      (i.isCancelled now) (Tick.instant now) s.state s.tally).1 := by
  have hcancel : i.isCancelled now = false := hc
  have hlate : Gate.isLate v (Tick.instant now) = false := by
    rw [Gate.isLate, hv, Option.any_some, decide_eq_false_iff_not]
    exact Int.not_le.2 hd
  unfold Gate.enter at hgrant ⊢
  simp only [hcancel, hlate, Bool.false_eq_true, if_false] at hgrant ⊢
  obtain ⟨r, state, htake⟩ : ∃ r state,
      d.store.take (Tick.clock d.start now) v.bucket 1 s.state = (r, state) := ⟨_, _, rfl⟩
  simp only [htake] at hgrant ⊢
  cases r with
  | error f => exact .failed hgrant (congrArg Prod.fst htake)
  | ok o =>
    dsimp only at hgrant ⊢
    split_ifs at hgrant ⊢ with hlatency
    · exact said_heed hv s.tally hgrant
    · exact .waits hgrant hv

theorem ask_turn (hg : i.AtGate d now deadline) (hc : i.plan.isCancelled now = false)
    (hd : Tick.instant now < deadline) (hv : v.deadline = some deadline)
    (hgrant : i.grant? d number now s = (d.gate.enter d.store (Tick.clock d.start now)
        d.latency v (i.isCancelled now) (Tick.instant now) s.state s.tally).1.granted?) :
    (i.ask d number now deadline v s).1.plan = i.plan ∧
      Turn d number now i s (view (i.ask d number now deadline v s)) :=
  proceed_turn rfl rfl hg hc hd (said_enter hc hd hv hgrant)

/-- The token and the deadline come before whatever else an invocation does at the gate. -/
theorem attend_turn {go : Shared σ τ → Invocation × Shared σ τ} (hg : i.AtGate d now deadline)
    (hgo : i.plan.isCancelled now = false → Tick.instant now < deadline →
      (go s).1.plan = i.plan ∧ Turn d number now i s (view (go s))) :
    (i.attend d now deadline go s).1.plan = i.plan ∧
      Turn d number now i s (view (i.attend d now deadline go s)) := by
  unfold attend
  by_cases hc : i.isCancelled now = true
  · rw [if_pos hc]
    exact ⟨rfl, .cancelled hg hc⟩
  · have hc' : i.plan.isCancelled now = false := Bool.eq_false_iff.2 hc
    rw [if_neg hc]
    split_ifs with hd
    · exact ⟨rfl, .late hg hc' hd⟩
    · exact hgo hc' (Int.not_le.1 hd)

theorem not_cancelled_or_late (hc : i.plan.isCancelled now = false)
    (hd : Tick.instant now < deadline) :
    ¬(i.plan.isCancelled now = true ∨ deadline ≤ Tick.instant now) := by
  rw [hc, not_or]
  exact ⟨Bool.false_ne_true, Int.not_le.2 hd⟩

theorem start_turn (hp : i.phase = .coming) : (i.start d number now s).1.plan = i.plan ∧
    Turn d number now i s (view (i.start d number now s)) := by
  unfold start
  dsimp only
  split_ifs with hclock
  · have hgrant : i.grant? d number now s = none := by
      simp only [grant?, hp]
      exact if_pos hclock
    exact ⟨rfl, .broken (Or.inl ⟨hp, hclock⟩) hgrant⟩
  have hclock : Tick.instant now + (i.plan.limit d).nanos ≤ d.horizon := Int.not_lt.1 hclock
  cases hb : bucket d i.plan.call with
  | error f => exact ⟨rfl, .misdirected hp hclock hb⟩
  | ok b =>
    have hg : i.AtGate d now (Tick.instant now + (i.plan.limit d).nanos) := by
      unfold AtGate
      rw [hp]
      exact ⟨rfl, hclock, b, hb⟩
    refine attend_turn hg fun hc hd => ask_turn hg hc hd rfl ?_
    simp only [grant?, hp, hb]
    rw [if_neg (Int.not_lt.2 hclock)]
    exact if_neg (not_cancelled_or_late hc hd)

/-- **A turn comes to one of these**, and leaves the plan as it is. -/
theorem turn_view (hv : i.Visits) : (i.turn d number now s).1.plan = i.plan ∧
    Turn d number now i s (view (i.turn d number now s)) := by
  unfold turn
  cases hp : i.phase with
  | coming => exact start_turn hp
  | admission deadline v w =>
    have hg : i.AtGate d now deadline := by
      unfold AtGate
      rw [hp]
    have hv := hv deadline v w hp
    -- A turn before the end of the sleep, or before the store has answered, does nothing.
    have hidle (hc : i.plan.isCancelled now = false) (hd : Tick.instant now < deadline)
        (hgrant : i.grant? d number now s = none) : Turn d number now i s (view (i, s)) := by
      have hwaits : Turn d number now i s { view (i, s) with
          phase := .admission deadline v w, state := s.state } := .waits hg hc hd hv hgrant
      rwa [← hp] at hwaits
    cases w with
    | answer t o =>
      refine attend_turn hg fun hc hd => ?_
      have hgrant : i.grant? d number now s = if t ≤ Tick.instant now then
          (d.gate.heed v (Tick.instant now) o s.tally).1.granted? else none := by
        simp only [grant?, hp, if_neg (not_cancelled_or_late hc hd)]
      split_ifs at hgrant ⊢ with ht
      · exact proceed_turn rfl rfl hg hc hd (said_heed hv s.tally hgrant)
      · exact ⟨rfl, hidle hc hd hgrant⟩
    | wake t =>
      refine attend_turn hg fun hc hd => ?_
      have hgrant : i.grant? d number now s = if t ≤ now then
          (d.gate.enter d.store (Tick.clock d.start now) d.latency v (i.isCancelled now)
            (Tick.instant now) s.state s.tally).1.granted? else none := by
        simp only [grant?, hp, if_neg (not_cancelled_or_late hc hd)]
      split_ifs at hgrant ⊢ with ht
      · exact ask_turn hg hc hd hv hgrant
      · exact ⟨rfl, hidle hc hd hgrant⟩
  | handing deadline ticket r =>
    have hhand := hand_view (d := d) (i := i) (s := s) number now deadline ticket r
    exact ⟨hhand.1, .handing hp hhand.2⟩
  | awaiting deadline ticket =>
    have hlook := look_view (d := d) (i := i) (s := s) now deadline ticket
    exact ⟨hlook.1, .awaiting hp hlook.2⟩
  | ended at' result => exact ⟨rfl, .idle (by rw [isOver, hp])⟩
  | dropped | broken => exact ⟨rfl, .idle (by rw [isOver, hp])⟩

/-! ### Dropping -/

/-- All that dropping an invocation can come to. -/
inductive Drop (i : Invocation) (s : Shared σ τ) : View σ τ → Prop where
  | idle (h : i.isOver = true) : Drop i s (view (i, s))
  | early (h : i.phase.ticket? = none) : Drop i s { view (i, s) with phase := .dropped }
  | late (line : τ) : Drop i s { view (i, s) with
      phase := .dropped, line, table := (s.board.table.deregister i.plan.id).2 }

theorem abort_view (d : Dispatcher σ τ) (number : Nat) (i : Invocation) (s : Shared σ τ) :
    (i.abort d number s).1.plan = i.plan ∧ Drop i s (view (i.abort d number s)) := by
  unfold abort
  cases hp : i.phase with
  | coming => exact ⟨rfl, .early (by rw [hp]; rfl)⟩
  | admission => exact ⟨rfl, .early (by rw [hp]; rfl)⟩
  | handing =>
    have := Drop.late (i := i) (s := s) (d.queue.withdraw number s.line)
    rw [← Board.table_deregister] at this
    exact ⟨rfl, this⟩
  | awaiting =>
    have := Drop.late (i := i) (s := s) s.line
    rw [← Board.table_deregister] at this
    exact ⟨rfl, this⟩
  | ended | dropped | broken => exact ⟨rfl, .idle (by rw [isOver, hp])⟩

end Invocation

end Sluice
